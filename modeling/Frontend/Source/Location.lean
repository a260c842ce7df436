/-!
# Points in source files

A location names a line and a column of a file. Lines are kept in 16 bits, columns in 16 bits with a
sign and file indices in 32 bits with a sign, so that a location packs into one key of 64 bits. File
indices below zero are reserved for what is no registered file.
-/

namespace Frontend

/-- The number of a source file: its position among the registered files, or a reserved negative
number. -/
structure FileIndex where
  value : Int32
deriving DecidableEq, Repr

namespace FileIndex

/-- Of unknown origin. -/
def invalid : FileIndex :=
  ⟨-1⟩

/-- In a comment or a text, where an editor is offered nothing. -/
def suppressed : FileIndex :=
  ⟨-2⟩

/-- Defined on the command line. -/
def commandLine : FileIndex :=
  ⟨-3⟩

/-- The greatest index. -/
def greatest : Nat := 2147483647

/-- The index of the file registered at a position. -/
def ofPosition (position : Nat) : FileIndex :=
  ⟨Int32.ofNat (min position greatest)⟩

/-- The position of the file with this index; reserved indices have none. -/
def position? (file : FileIndex) : Option Nat :=
  if file.value.toInt < 0 then none else some file.value.toInt.toNat

@[simp]
theorem value_ofPosition {position : Nat} (small : position ≤ greatest) :
    (ofPosition position).value.toInt = position := by
  rw [ofPosition, Nat.min_eq_left small]
  exact Int32.toInt_ofNat_of_lt (Nat.lt_succ_of_le small)

theorem position?_eq_some_iff_value {index : FileIndex} {position : Nat} :
    index.position? = some position ↔ index.value.toInt = position := by
  unfold position?
  split
  · simp
    omega
  · rw [Option.some.injEq]
    omega

/-- Up to the greatest index, each position has an index of its own. -/
@[simp]
theorem position?_ofPosition {position : Nat} (small : position ≤ greatest) :
    (ofPosition position).position? = some position :=
  position?_eq_some_iff_value.mpr (value_ofPosition small)

/-- Only the index of a position leads there. -/
theorem position?_eq_some_iff {index : FileIndex} {position : Nat} :
    index.position? = some position ↔ position ≤ greatest ∧ index = ofPosition position := by
  constructor
  · intro found
    have value := position?_eq_some_iff_value.mp found
    have small : position ≤ greatest := by
      have most : index.value.toInt ≤ 2147483647 := index.value.toInt_le
      unfold greatest
      omega
    refine ⟨small, ?_⟩
    have same : index.value = (ofPosition position).value := by
      rw [← Int32.toInt_inj, value, value_ofPosition small]
    cases index
    exact congrArg FileIndex.mk same
  · rintro ⟨small, rfl⟩
    exact position?_ofPosition small

/-- The index is reserved. -/
def isReserved (file : FileIndex) : Bool :=
  file.value.toInt < 0

/-- The index as a decimal number. -/
def text (file : FileIndex) : String :=
  toString file.value.toInt

end FileIndex

/-- A point in a source file. A negative column is unknown. -/
structure Location where
  line : UInt16
  column : Int16
  file : FileIndex
deriving DecidableEq, Repr

namespace Location

/-- The location of a line and a column; what does not fit is brought to the nearest value that
does, and every negative column to -1. -/
def saturating (file : FileIndex) (line : Nat) (column : Int) : Location where
  line := UInt16.ofNat (min line 65535)
  column := Int16.ofInt (max (-1) (min column 32767))
  file := file

/-- Nowhere. -/
def unknown : Location where
  line := 0
  column := -1
  file := .invalid

/-- On the command line. -/
def commandLine : Location where
  line := 1
  column := 1
  file := .commandLine

/-- The file is known, or reserved for something other than nowhere. -/
def isKnown (location : Location) : Bool :=
  location.file ≠ .invalid

/-- The column is known. -/
def columnIsKnown (location : Location) : Bool :=
  0 ≤ location.column.toInt

/-- The three numbers side by side in 64 bits: the file in the upper half, then the column, and the
line in the lowest bits. -/
def key (location : Location) : UInt64 :=
  (location.file.value.toUInt32.toUInt64 <<< 32) |||
    (location.column.toUInt16.toUInt64 <<< 16) ||| location.line.toUInt64

/-- The location with its fields by name, on one line. -/
def debugText (location : Location) : String :=
  "SourceLocation \x7b line: " ++ toString location.line.toNat ++
    ", col: " ++ toString location.column.toInt ++
    ", file: FileIndex(" ++ location.file.text ++ ") \x7d"

/-- A name with line and column; an unknown column is left out. -/
def textIn (location : Location) (name : String) : String :=
  let line := toString location.line.toNat
  if location.columnIsKnown then
    name ++ "(" ++ line ++ ", " ++ toString location.column.toInt ++ ")"
  else name ++ "(" ++ line ++ ")"

end Location

end Frontend
