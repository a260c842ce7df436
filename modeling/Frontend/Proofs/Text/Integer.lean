import Mathlib.Data.List.TakeWhile
import Frontend.Text.Integer

/-!
# What an integer literal is

Reading an integer skips the blanks around it, takes a sign if there is one, and goes through the
digits. What it accepts is said here without the reader: what is left between blanks, a sign or
none, and one or more decimal digits, whose value is that of positional notation.
-/

namespace Frontend.Text

/-! ## Without the blanks around -/

/-- A text without the blanks around it: blanks stand before and behind, and it neither begins nor
ends with one. -/
structure IsTrimmed (chars middle : List Char) : Prop where
  between : ∃ before after, chars = before ++ middle ++ after ∧
    (∀ c ∈ before, isBlank c = true) ∧ ∀ c ∈ after, isBlank c = true
  first : ∀ c ∈ middle.head?, isBlank c = false
  last : ∀ c ∈ middle.getLast?, isBlank c = false

/-- Nothing is dropped from a text that begins with no blank. -/
theorem dropWhile_isBlank_eq_self {chars : List Char}
    (first : ∀ c ∈ chars.head?, isBlank c = false) : chars.dropWhile isBlank = chars := by
  cases chars with
  | nil => rfl
  | cons c rest => rw [List.dropWhile_cons_of_neg (by simp [first c rfl])]

theorem isBlank_head?_dropWhile (chars : List Char) :
    ∀ c ∈ (chars.dropWhile isBlank).head?, isBlank c = false := by
  intro c isFirst
  have other := List.head?_dropWhile_not isBlank chars
  rw [Option.mem_def.mp isFirst] at other
  simpa using other

theorem isTrimmed_trimBlanks (chars : List Char) : IsTrimmed chars (trimBlanks chars) := by
  have ends := List.takeWhile_append_dropWhile (p := isBlank)
    (l := (chars.dropWhile isBlank).reverse)
  have split : chars.dropWhile isBlank = trimBlanks chars ++
      ((chars.dropWhile isBlank).reverse.takeWhile isBlank).reverse := by
    rw [trimBlanks, ← List.reverse_append, ends, List.reverse_reverse]
  refine ⟨⟨chars.takeWhile isBlank,
    ((chars.dropWhile isBlank).reverse.takeWhile isBlank).reverse, ?_, ?_, ?_⟩, ?_, ?_⟩
  · rw [List.append_assoc, ← split, List.takeWhile_append_dropWhile]
  · exact fun c member => List.mem_takeWhile_imp member
  · exact fun c member => List.mem_takeWhile_imp (List.mem_reverse.mp member)
  · intro c isFirst
    apply isBlank_head?_dropWhile chars
    rw [split, Option.mem_def, List.head?_append, Option.mem_def.mp isFirst, Option.some_or]
  · intro c isLast
    rw [trimBlanks, List.getLast?_reverse] at isLast
    exact isBlank_head?_dropWhile _ c isLast

theorem IsTrimmed.trimBlanks_eq {chars middle : List Char} (trimmed : IsTrimmed chars middle) :
    trimBlanks chars = middle := by
  obtain ⟨⟨before, after, rfl, blank, blank'⟩, first, last⟩ := trimmed
  rw [trimBlanks, List.append_assoc, List.dropWhile_append_of_pos blank]
  cases middle with
  | nil =>
      have nothing : after.dropWhile isBlank = [] := List.dropWhile_eq_nil_iff.mpr blank'
      rw [List.nil_append, nothing]
      rfl
  | cons c rest =>
      have stays : (c :: rest ++ after).dropWhile isBlank = c :: rest ++ after :=
        dropWhile_isBlank_eq_self first
      have backwards : ((c :: rest).reverse).dropWhile isBlank = (c :: rest).reverse :=
        dropWhile_isBlank_eq_self (by rwa [List.head?_reverse])
      rw [stays, List.reverse_append, List.dropWhile_append_of_pos, backwards, List.reverse_reverse]
      exact fun c member => blank' c (List.mem_reverse.mp member)

/-- Trimming finds the text without the blanks around it, which is only one. -/
theorem trimBlanks_eq_iff {chars middle : List Char} :
    trimBlanks chars = middle ↔ IsTrimmed chars middle := by
  constructor
  · rintro rfl
    exact isTrimmed_trimBlanks chars
  · exact IsTrimmed.trimBlanks_eq

namespace Integer

/-! ## Literals -/

/-- One or more ASCII digits, and the number that they write. -/
structure IsNumeral (chars : List Char) (value : Nat) : Prop where
  nonempty : chars ≠ []
  digits : ∀ c ∈ chars, c.isDigit = true
  value_eq : Nat.ofDigitChars 10 chars 0 = value

/-- A numeral with an optional sign, and its value. -/
inductive IsLiteral : List Char → Int → Prop where
  | unsigned {digits : List Char} {value : Nat} (numeral : IsNumeral digits value) :
      IsLiteral digits value
  | positive {digits : List Char} {value : Nat} (numeral : IsNumeral digits value) :
      IsLiteral ('+' :: digits) value
  | negative {digits : List Char} {value : Nat} (numeral : IsNumeral digits value) :
      IsLiteral ('-' :: digits) (-value)

theorem digit?_eq (c : Char) :
    digit? c = if c.isDigit = true then some (c.toNat - '0'.toNat) else none := by
  have same : '0' ≤ c ∧ c ≤ '9' ↔ c.isDigit = true := by
    rw [Char.isDigit, Bool.and_eq_true, decide_eq_true_iff, decide_eq_true_iff]
    rfl
  rw [digit?]
  exact if_congr same rfl rfl

/-- The digits are read one after the other, and nothing but digits is read. -/
theorem digitsFrom?_eq (chars : List Char) (value : Nat) :
    digitsFrom? value chars =
      if chars.all Char.isDigit then some (Nat.ofDigitChars 10 chars value) else none := by
  induction chars generalizing value with
  | nil => rfl
  | cons c rest ih =>
      rw [digitsFrom?, digit?_eq, List.all_cons, Nat.ofDigitChars_cons, Nat.mul_comm 10 value]
      cases c.isDigit with
      | true => rw [if_pos rfl, Option.bind_some, ih, Bool.true_and]
      | false => rfl

theorem magnitude?_eq_some_iff {chars : List Char} {value : Nat} :
    magnitude? chars = some value ↔ IsNumeral chars value := by
  cases chars with
  | nil =>
      constructor
      · intro read
        cases read
      · intro numeral
        exact absurd rfl numeral.nonempty
  | cons c rest =>
      rw [magnitude?, digitsFrom?_eq, Option.ite_none_right_eq_some, Option.some.injEq,
        List.all_eq_true]
      · exact ⟨fun read => ⟨List.cons_ne_nil c rest, read.1, read.2⟩,
          fun numeral => ⟨numeral.digits, numeral.value_eq⟩⟩
      · simp

/-- A sign is no digit. -/
theorem IsNumeral.ne_sign {c : Char} {rest : List Char} {value : Nat}
    (numeral : IsNumeral (c :: rest) value) : c ≠ '-' ∧ c ≠ '+' := by
  have digit := numeral.digits c List.mem_cons_self
  constructor <;> rintro rfl <;> cases digit

/-- The literals are those texts that are read, with the value that is read. -/
theorem value?_eq_some_iff {chars : List Char} {value : Int} :
    value? chars = some value ↔ IsLiteral chars value := by
  constructor
  · intro read
    unfold value? at read
    split at read
    · obtain ⟨magnitude, lifted, rfl⟩ := Option.map_eq_some_iff.mp read
      obtain ⟨natural, numeral, same⟩ := Option.bind_eq_some_iff.mp lifted
      obtain rfl := Option.some.inj same
      exact .negative (magnitude?_eq_some_iff.mp numeral)
    · obtain ⟨magnitude, numeral, rfl⟩ := Option.map_eq_some_iff.mp read
      exact .positive (magnitude?_eq_some_iff.mp numeral)
    · obtain ⟨magnitude, numeral, rfl⟩ := Option.map_eq_some_iff.mp read
      exact .unsigned (magnitude?_eq_some_iff.mp numeral)
  · intro literal
    cases literal with
    | unsigned numeral =>
        cases chars with
        | nil => exact absurd rfl numeral.nonempty
        | cons c rest =>
            obtain ⟨notNegative, notPositive⟩ := numeral.ne_sign
            rw [value?, magnitude?_eq_some_iff.mpr numeral]
            · rfl
            · simpa using notNegative
            · simpa using notPositive
    | positive numeral =>
        rw [value?, magnitude?_eq_some_iff.mpr numeral]
        rfl
    | negative numeral =>
        rw [value?, magnitude?_eq_some_iff.mpr numeral]
        rfl

theorem parse?_eq_some_iff {chars : List Char} {value : Int} :
    parse? chars = some value ↔ IsLiteral chars value ∧ least ≤ value ∧ value ≤ greatest := by
  rw [parse?, Option.filter_eq_some_iff, value?_eq_some_iff]
  simp

end Integer

end Frontend.Text
