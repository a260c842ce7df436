import Frontend.Text.Utf8

/-!
# Single bytes in decoded texts

A byte below 128 is a character of its own. Where it stands it breaks off a character that has begun,
and no other bytes are ever read as the character that it stands for. So bytes can be cut at such a
byte before they are decoded or after it, with the same result.
-/

namespace Frontend.Text.Utf8

/-! ## Single bytes -/

theorem toNat_ofNat_of_lt {n : Nat} (single : n < 0x80) : (Char.ofNat n).toNat = n := by
  have valid : n.isValidChar := Or.inl (by omega)
  rw [Char.ofNat, dif_pos valid]
  rfl

/-- No byte stands for the character alone, except that an invalid code is the character zero. -/
def IsLong (c : Char) : Prop :=
  0x80 ≤ c.toNat ∨ c = '\x00'

theorem isLong_ofNat {n : Nat} (large : 0x80 ≤ n) : IsLong (Char.ofNat n) := by
  by_cases valid : n.isValidChar
  · have same : (Char.ofNat n).toNat = n := by
      rw [Char.ofNat, dif_pos valid]
      rfl
    exact .inl (same.symm ▸ large)
  · refine .inr ?_
    rw [Char.ofNat, dif_neg valid]
    rfl

theorem isLong_replacement : IsLong replacement :=
  .inl (by decide)

/-! ## One byte -/

/-- What has been read of a character is large enough for it to be long, or will be after the next
byte. -/
def Begun.IsLate (begun : Begun) : Prop :=
  0x80 ≤ begun.low ∧ (2 ≤ begun.bits ∨ 2 ≤ begun.owed ∧ (1 ≤ begun.bits ∨ 0x90 ≤ begun.low))

theorem isLate_of_start {byte : Nat} {begun : Begun} (begins : (start byte).2 = some begun) :
    begun.IsLate := by
  unfold start at begins
  grind [Begun.IsLate]

theorem start_of_single {byte : Nat} (single : byte < 0x80) :
    start byte = ([Char.ofNat byte], none) := by
  rw [start, if_pos single]

theorem mem_start {byte : Nat} {c : Char} (member : c ∈ (start byte).1) :
    c.toNat = byte ∨ IsLong c := by
  by_cases single : byte < 0x80
  · rw [start_of_single single, List.mem_singleton] at member
    exact .inl (member ▸ toNat_ofNat_of_lt single)
  · have only : c = replacement := by
      unfold start at member
      grind
    exact .inr (only ▸ isLong_replacement)

theorem start_moves (byte : Nat) : (start byte).1 ≠ [] ∨ (start byte).2 ≠ none := by
  unfold start
  grind

variable {begun : Begun}

theorem isLate_of_resume (late : begun.IsLate) {byte : Nat} {next : Begun}
    (begins : (resume begun byte).2 = some next) : next.IsLate := by
  unfold resume at begins
  split at begins
  · simp only at begins
    grind [Begun.IsLate]
  · exact isLate_of_start begins

/-- A single byte breaks off what has begun. -/
theorem resume_of_single (late : begun.IsLate) {byte : Nat} (single : byte < 0x80) :
    resume begun byte = ([replacement, Char.ofNat byte], none) := by
  have outside : ¬ (begun.low ≤ byte ∧ byte ≤ begun.high) := fun inside =>
    absurd (Nat.le_trans late.1 inside.1) (Nat.not_le.mpr single)
  rw [resume, if_neg outside, start_of_single single]

theorem mem_resume (late : begun.IsLate) {byte : Nat} {c : Char}
    (member : c ∈ (resume begun byte).1) : c.toNat = byte ∨ IsLong c := by
  unfold resume at member
  split at member
  · rename_i inside
    simp only at member
    split at member
    · rename_i last
      rw [List.mem_singleton] at member
      have large : 0x80 ≤ begun.bits * 64 + (byte - 0x80) := by
        unfold Begun.IsLate at late
        omega
      exact .inr (member ▸ isLong_ofNat large)
    · cases member
  · rcases List.mem_cons.mp member with rfl | later
    · exact .inr isLong_replacement
    · exact mem_start later

theorem resume_moves (begun : Begun) (byte : Nat) :
    (resume begun byte).1 ≠ [] ∨ (resume begun byte).2 ≠ none := by
  unfold resume
  grind

/-! ## All bytes -/

theorem decodeFrom_none_cons (byte : UInt8) (bytes : List UInt8) :
    decodeFrom none (byte :: bytes) =
      (start byte.toNat).1 ++ decodeFrom (start byte.toNat).2 bytes :=
  rfl

theorem decodeFrom_some_cons (begun : Begun) (byte : UInt8) (bytes : List UInt8) :
    decodeFrom (some begun) (byte :: bytes) =
      (resume begun byte.toNat).1 ++ decodeFrom (resume begun byte.toNat).2 bytes :=
  rfl

/-- A character that has begun comes to something. -/
theorem decodeFrom_ne_nil (begun : Begun) (bytes : List UInt8) :
    decodeFrom (some begun) bytes ≠ [] := by
  induction bytes generalizing begun with
  | nil => exact List.cons_ne_nil replacement []
  | cons byte bytes ih =>
      rw [decodeFrom_some_cons, Ne, List.append_eq_nil_iff]
      rintro ⟨silent, nothing⟩
      rcases resume_moves begun byte.toNat with completes | begins
      · exact completes silent
      · obtain ⟨next, isNext⟩ := Option.ne_none_iff_exists'.mp begins
        rw [isNext] at nothing
        exact ih next nothing

theorem decodeFrom_eq_nil_iff {bytes : List UInt8} : decodeFrom none bytes = [] ↔ bytes = [] := by
  cases bytes with
  | nil => exact iff_of_true rfl rfl
  | cons byte bytes =>
      refine iff_of_false ?_ (List.cons_ne_nil byte bytes)
      rw [decodeFrom_none_cons, List.append_eq_nil_iff]
      rintro ⟨silent, nothing⟩
      rcases start_moves byte.toNat with completes | begins
      · exact completes silent
      · obtain ⟨next, isNext⟩ := Option.ne_none_iff_exists'.mp begins
        rw [isNext] at nothing
        exact decodeFrom_ne_nil next bytes nothing

/-- Whatever has begun before it, a single byte is decoded alone, and what follows it afresh. -/
theorem decodeFrom_append_single {state : Option Begun} (late : ∀ begun ∈ state, begun.IsLate)
    {byte : UInt8} (single : byte.toNat < 0x80) (before after : List UInt8) :
    decodeFrom state (before ++ byte :: after) =
      decodeFrom state before ++ Char.ofNat byte.toNat :: decodeFrom none after := by
  induction before generalizing state with
  | nil =>
      cases state with
      | none =>
          rw [List.nil_append, decodeFrom_none_cons, start_of_single single]
          rfl
      | some begun =>
          rw [List.nil_append, decodeFrom_some_cons, resume_of_single (late begun rfl) single]
          rfl
  | cons first before ih =>
      cases state with
      | none =>
          have isLate : ∀ next ∈ (start first.toNat).2, next.IsLate :=
            fun next begins => isLate_of_start begins
          rw [List.cons_append, decodeFrom_none_cons, decodeFrom_none_cons, ih isLate,
            List.append_assoc]
      | some begun =>
          have isLate : ∀ next ∈ (resume begun first.toNat).2, next.IsLate :=
            fun next begins => isLate_of_resume (late begun rfl) begins
          rw [List.cons_append, decodeFrom_some_cons, decodeFrom_some_cons, ih isLate,
            List.append_assoc]

/-- A character is long, or it is a single byte among those that are decoded. -/
theorem mem_decodeFrom {state : Option Begun} (late : ∀ begun ∈ state, begun.IsLate)
    {bytes : List UInt8} {c : Char} (member : c ∈ decodeFrom state bytes) :
    IsLong c ∨ ∃ byte ∈ bytes, byte.toNat = c.toNat := by
  induction bytes generalizing state with
  | nil =>
      cases state with
      | none => cases member
      | some begun => exact .inl (List.mem_singleton.mp member ▸ isLong_replacement)
  | cons byte bytes ih =>
      have further : ∀ {next : Option Begun}, (∀ begun ∈ next, begun.IsLate) →
          c ∈ decodeFrom next bytes → IsLong c ∨ ∃ other ∈ byte :: bytes, other.toNat = c.toNat := by
        intro next late member
        rcases ih late member with long | ⟨other, listed, same⟩
        · exact .inl long
        · exact .inr ⟨other, List.mem_cons_of_mem byte listed, same⟩
      have here : c.toNat = byte.toNat ∨ IsLong c →
          IsLong c ∨ ∃ other ∈ byte :: bytes, other.toNat = c.toNat := by
        rintro (same | long)
        · exact .inr ⟨byte, List.mem_cons_self, same.symm⟩
        · exact .inl long
      cases state with
      | none =>
          rcases List.mem_append.mp member with now | later
          · exact here (mem_start now)
          · exact further (fun next begins => isLate_of_start begins) later
      | some begun =>
          have isLate := late begun rfl
          rcases List.mem_append.mp member with now | later
          · exact here (mem_resume isLate now)
          · exact further (fun next begins => isLate_of_resume isLate begins) later

/-! ## Texts -/

variable {bytes : List UInt8} {byte : UInt8}

/-- A text is cut at a single byte where its bytes are. -/
theorem toList_decode_append (single : byte.toNat < 0x80) (before after : List UInt8) :
    (decode (before ++ byte :: after)).toList =
      (decode before).toList ++ Char.ofNat byte.toNat :: (decode after).toList := by
  simp only [decode, String.toList_ofList]
  exact decodeFrom_append_single (by rintro begun ⟨⟩) single before after

theorem toList_decode_eq_nil_iff : (decode bytes).toList = [] ↔ bytes = [] := by
  rw [decode, String.toList_ofList, decodeFrom_eq_nil_iff]

/-- A text holds the character of a single byte only if the byte is there. -/
theorem notMem_decode (single : byte.toNat < 0x80) (nonzero : byte ≠ 0) (absent : byte ∉ bytes) :
    Char.ofNat byte.toNat ∉ (decode bytes).toList := by
  rw [decode, String.toList_ofList]
  intro member
  have code := toNat_ofNat_of_lt single
  rcases mem_decodeFrom (by rintro begun ⟨⟩) member with long | ⟨other, listed, same⟩
  · rcases long with large | zero
    · omega
    · rw [zero] at code
      exact nonzero (UInt8.toNat_inj.mp code.symm)
  · rw [code] at same
    exact absent (UInt8.toNat_inj.mp same ▸ listed)

end Frontend.Text.Utf8
