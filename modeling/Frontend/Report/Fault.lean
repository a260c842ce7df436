import Frontend.Report.Basic

/-!
# Faults

A fault is a misuse of the front end by the compiler around it. It is not reported to the user: the
session that commits it ends there.
-/

namespace Frontend

/-- A misuse that ends the session. -/
inductive Fault where
  /-- A report without a kind was to be delivered. -/
  | kindMissing (location : Location)
  /-- A report was to be delivered while no hook was installed. -/
  | hookMissing (kind : NoteKind)
  /-- A report was to get an id when there was none left. -/
  | idsExhausted
  /-- An id was replayed under which nothing was postponed. -/
  | neverPostponed (id : ReportId)
  /-- Instantiations were still open at the end. -/
  | contextLeft (frames : Nat) (innermost : String)
  /-- An instantiation was closed that was not the innermost one. -/
  | contextMismatch (depth frames : Nat)
  /-- A saved report or token was asked for under a name that holds none. -/
  | nothingSaved (name : String)
deriving DecidableEq, Repr

/-- The text of a fault. -/
def Fault.message : Fault → String
  | .kindMissing location => "delivered a report without a kind at " ++ location.debugText
  | .hookMissing kind => "no report hook installed, cannot deliver " ++ Named.name kind
  | .idsExhausted => "report id space exhausted"
  | .neverPostponed id => "report " ++ id.text ++ " was never postponed"
  | .contextLeft frames innermost =>
      "unbalanced instantiation context: " ++ toString frames ++ " frame(s) left, innermost " ++
        String.ofList ['\x60'] ++ innermost ++ String.ofList ['\x60']
  | .contextMismatch depth frames =>
      "unbalanced instantiation context: popping depth " ++ toString depth ++ " with " ++
        toString frames ++ " frame(s) on the stack"
  | .nothingSaved name => "nothing is saved under " ++ name

/-! ## Results that may be a fault

A sequence of operations succeeds exactly when each of them does.
-/

namespace Fault

universe u

variable {α β : Type u}

theorem bind_eq_ok {first : Except Fault α} {next : α → Except Fault β} {result : β} :
    first >>= next = .ok result ↔ ∃ value, first = .ok value ∧ next value = .ok result := by
  cases first <;> simp [bind, Except.bind]

theorem pure_eq_ok {value result : α} :
    (pure value : Except Fault α) = .ok result ↔ value = result := by
  simp [pure, Except.pure]

theorem throw_ne_ok {fault : Fault} {result : α} :
    (throw fault : Except Fault α) ≠ .ok result := by
  rintro ⟨⟩

end Fault

end Frontend
