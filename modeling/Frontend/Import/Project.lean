import Frontend.Import.Descriptor
import Frontend.Path.Join

/-!
# Finding the main file of a project

Walking up from a directory, every descriptor with a source file of the same stem beside it offers
that file as a candidate, and the nearest directory with a candidate decides. A package descriptor
met on the way names the project; before one is met the directory does. The candidate of that name
is chosen, else one whose name contains the package name, else the one whose descriptor has the
weightiest extension. Two package descriptors leave the project undecided.
-/

namespace Frontend.Project

/-- A source file that a descriptor offers, with the rank of the descriptor's extension. -/
structure Candidate where
  rank : Nat
  main : Path
deriving DecidableEq, Repr

/-- What one directory, after those below it, has offered. -/
structure Offer where
  candidates : List Candidate
  /-- The name of the package, once its descriptor has been met. -/
  package : Option String
deriving DecidableEq, Repr

/-- The extension of source files. -/
def mainExtension : String :=
  "nim"

/-- Takes a descriptor into account; `none` when it is a second package descriptor. -/
def Offer.add? (tree : FileTree) (directory : Path) (offer : Offer)
    (descriptor : Descriptor.Described) : Option Offer :=
  match Descriptor.rankedExtensions.idxOf? descriptor.extension with
  | none => some offer
  | some rank =>
      let main := directory.join ⟨descriptor.stem ++ "." ++ mainExtension⟩
      let isNew := tree.isFile main && !offer.candidates.any (·.main.same main)
      let candidates :=
        if isNew then offer.candidates ++ [⟨rank, main⟩] else offer.candidates
      if descriptor.extension = Descriptor.packageExtension then
        if offer.package.isSome then none else some ⟨candidates, some descriptor.stem⟩
      else some ⟨candidates, offer.package⟩

/-- Takes a list of descriptors into account. -/
def Offer.addAll? (tree : FileTree) (directory : Path) (offer : Offer) :
    List Descriptor.Described → Option Offer
  | [] => some offer
  | descriptor :: rest =>
      (offer.add? tree directory descriptor).bind fun offer => offer.addAll? tree directory rest

/-- One text occurs in another. -/
def occursIn (part : List Char) : List Char → Bool
  | [] => part.isEmpty
  | c :: rest => part.isPrefixOf (c :: rest) || occursIn part rest

/-- The name of a candidate. -/
def Candidate.name (candidate : Candidate) : String :=
  candidate.main.stem?.getD ""

/-- The candidate to choose in a directory whose candidates are given in the order of their
ranks. -/
def choose? (package : Option String) (directory : Path) (candidates : List Candidate) :
    Option Candidate :=
  let preferred :=
    match package with
    | some package =>
        candidates.find? (·.name == package)
          <|> candidates.find? fun candidate => occursIn package.toList candidate.name.toList
    | none => directory.fileName?.bind fun name => candidates.find? (·.name == name)
  preferred <|> candidates.head?

/-- Walks up directories, nearest first, to the first that has a candidate. -/
def discoverAlong (tree : FileTree) (package : Option String) : List Path → Option Path
  | [] => none
  | directory :: above =>
      match Offer.addAll? tree directory ⟨[], package⟩ (Descriptor.inDirectory tree directory) with
      | none => none
      | some offer =>
          let candidates := offer.candidates.mergeSort fun left right => left.rank ≤ right.rank
          match choose? offer.package directory candidates with
          | some candidate => some candidate.main
          | none => discoverAlong tree offer.package above

/-- The main file of the project in a directory or the nearest directory above it that has one. -/
def discover (tree : FileTree) (directory : Path) : Option Path :=
  discoverAlong tree none directory.ancestors

end Frontend.Project
