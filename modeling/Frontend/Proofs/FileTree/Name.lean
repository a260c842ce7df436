import Frontend.FileTree.Name
import Frontend.Proofs.Path.Extension
import Frontend.Proofs.Text.Utf8

/-!
# Names that are read as texts

A name is split where it stands in its directory, and both parts are read. It comes to the same to
read the name first and to split the text, since no bytes but a dot are read as one. A name of a known
extension can thus be told by its text, even when its stem cannot.
-/

namespace Frontend

open Frontend.Path Frontend.Text

namespace Text.Utf8

variable {bytes : List UInt8}

/-! ## Dots -/

theorem dot_notMem_decode (absent : 0x2E ∉ bytes) : '.' ∉ (decode bytes).toList :=
  notMem_decode (by decide) (by decide) absent

theorem toList_decode_append_dot (before after : List UInt8) :
    (decode (before ++ 0x2E :: after)).toList =
      (decode before).toList ++ '.' :: (decode after).toList :=
  toList_decode_append (by decide) before after

/-- Bytes can be cut at their last dot after they have been read. -/
theorem cutAtLast_decode (bytes : List UInt8) :
    cutAtLast '.' (decode bytes).toList =
      ((decode (cutAtLast 0x2E bytes).1).toList,
        (cutAtLast 0x2E bytes).2.map fun after => (decode after).toList) := by
  rcases exists_last_mark 0x2E bytes with none | ⟨before, after, whole, rfl⟩
  · rw [cutAtLast_of_notMem none, cutAtLast_of_notMem (dot_notMem_decode none)]
    rfl
  · have absent := dot_notMem_decode whole
    cases before with
    | nil =>
        have read := toList_decode_append_dot [] after
        rw [List.nil_append] at read ⊢
        rw [cutAtLast_cons whole, read]
        exact cutAtLast_cons absent
    | cons first rest =>
        have some : (decode (first :: rest)).toList ≠ [] := by
          rw [Ne, toList_decode_eq_nil_iff]
          exact List.cons_ne_nil first rest
        rw [cutAtLast_append (List.cons_ne_nil first rest) whole, toList_decode_append_dot,
          cutAtLast_append some absent]
        rfl

/-- A text that ends in a dot was read from bytes that do. -/
theorem exists_of_toList_decode_eq_concat {front : List Char}
    (ends : (decode bytes).toList = front ++ ['.']) :
    ∃ before, bytes = before ++ [0x2E] ∧ (decode before).toList = front := by
  rcases exists_last_mark 0x2E bytes with none | ⟨before, after, whole, rfl⟩
  · have absent := dot_notMem_decode none
    rw [ends] at absent
    exact absurd (List.mem_append_right front List.mem_cons_self) absent
  · have absent := dot_notMem_decode whole
    rw [toList_decode_append_dot] at ends
    rcases List.eq_nil_or_concat (decode after).toList with nothing | ⟨rest, last, some⟩
    · rw [nothing] at ends
      obtain rfl := toList_decode_eq_nil_iff.mp nothing
      exact ⟨before, rfl, (List.append_inj' ends rfl).1⟩
    · have isLast : ((decode before).toList ++ '.' :: rest) ++ [last] = front ++ ['.'] := by
        simpa [some] using ends
      obtain ⟨-, same⟩ := List.append_inj' isLast rfl
      obtain rfl := List.singleton_inj.mp same
      simp [some] at absent

end Text.Utf8

/-! ## Names -/

namespace StrayName

variable (name : StrayName)

theorem slash_notMem_decode : '/' ∉ (Utf8.decode name.bytes).toList :=
  Utf8.notMem_decode (by decide) (by decide) name.whole

/-- Two dots are a text. -/
theorem decode_ne_parent : Utf8.decode name.bytes ≠ ".." := by
  intro parent
  have dots : (Utf8.decode name.bytes).toList = ['.'] ++ ['.'] := by
    rw [parent]
    rfl
  obtain ⟨first, isName, dot⟩ := Utf8.exists_of_toList_decode_eq_concat dots
  have dot : (Utf8.decode first).toList = [] ++ ['.'] := dot
  obtain ⟨before, rfl, nothing⟩ := Utf8.exists_of_toList_decode_eq_concat dot
  obtain rfl := Utf8.toList_decode_eq_nil_iff.mp nothing
  have notText := name.notText
  rw [isName] at notText
  exact notText (by decide)

end StrayName

/-- A name can be split after it has been read. -/
theorem FileName.splitExtension_eq (name : FileName) :
    name.splitExtension = Path.splitExtension name.shown := by
  cases name with
  | text name => rfl
  | stray name =>
      rw [splitExtension, shown, Path.splitExtension, if_neg name.decode_ne_parent,
        Utf8.cutAtLast_decode]
      simp [Function.comp_def]

end Frontend
