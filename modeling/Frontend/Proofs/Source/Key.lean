import Mathlib.Algebra.Group.Nat.Defs
import Frontend.Source.Location

/-!
# Keys of locations

The three numbers of a location lie side by side in its key, each in bits of its own: a negative
column or a reserved file index is made a number without a sign of the same width before it is moved
to its place, so that its sign reaches into no other field. Every field can therefore be cut out
again, and every number of 64 bits is the key of exactly one location.
-/

namespace Frontend.Location

/-! ## Cutting out the fields -/

/-- The line that a key holds, in its lowest 16 bits. -/
def lineIn (key : UInt64) : UInt16 :=
  (key &&& 0xFFFF).toUInt16

/-- The column that a key holds, in the 16 bits above the line; the highest of them is its sign. -/
def columnIn (key : UInt64) : Int16 :=
  ((key >>> 16) &&& 0xFFFF).toUInt16.toInt16

/-- The file that a key holds, in its upper half; the highest bit is its sign. -/
def fileIn (key : UInt64) : FileIndex :=
  ⟨(key >>> 32).toUInt32.toInt32⟩

theorem toNat_toUInt16_mask (word : UInt64) :
    (word &&& 0xFFFF).toUInt16.toNat = word.toNat % 2 ^ 16 := by
  have masked : (word &&& 0xFFFF).toNat = word.toNat % 2 ^ 16 :=
    (UInt64.toNat_and word 0xFFFF).trans (Nat.and_two_pow_sub_one_eq_mod word.toNat 16)
  rw [UInt64.toNat_toUInt16, masked, Nat.mod_mod]

theorem toNat_lineIn (key : UInt64) : (lineIn key).toNat = key.toNat % 2 ^ 16 :=
  toNat_toUInt16_mask key

theorem toNat_columnIn (key : UInt64) :
    (columnIn key).toUInt16.toNat = key.toNat / 2 ^ 16 % 2 ^ 16 := by
  have shifted : (key >>> 16).toNat = key.toNat / 2 ^ 16 := by
    rw [← Nat.shiftRight_eq_div_pow]
    rfl
  rw [columnIn, UInt16.toUInt16_toInt16, toNat_toUInt16_mask, shifted]

theorem toNat_fileIn (key : UInt64) :
    (fileIn key).value.toUInt32.toNat = key.toNat / 2 ^ 32 := by
  have size : key.toNat < 2 ^ 64 := key.toNat_lt
  have shifted : (key >>> 32).toNat = key.toNat / 2 ^ 32 := by
    rw [← Nat.shiftRight_eq_div_pow]
    rfl
  rw [fileIn, UInt32.toUInt32_toInt32, UInt64.toNat_toUInt32, shifted]
  omega

/-! ## The key as a number -/

variable (location : Location)

/-- No field reaches into the bits of another one: the fields are the digits of the key. -/
theorem toNat_key :
    location.key.toNat =
      location.file.value.toUInt32.toNat * 2 ^ 32 + location.column.toUInt16.toNat * 2 ^ 16 +
        location.line.toNat := by
  have fileSize : location.file.value.toUInt32.toNat < 2 ^ 32 := UInt32.toNat_lt _
  have columnSize : location.column.toUInt16.toNat < 2 ^ 16 := UInt16.toNat_lt _
  have lineSize : location.line.toNat < 2 ^ 16 := UInt16.toNat_lt _
  have words : location.key.toNat =
      (location.file.value.toUInt32.toNat <<< 32) % 2 ^ 64 |||
        (location.column.toUInt16.toNat <<< 16) % 2 ^ 64 ||| location.line.toNat :=
    rfl
  rw [words]
  generalize location.file.value.toUInt32.toNat = file at *
  generalize location.column.toUInt16.toNat = column at *
  -- Nothing is shifted out of the 64 bits.
  have upper : (file <<< 32) % 2 ^ 64 = file <<< 32 := by
    rw [Nat.shiftLeft_eq]
    omega
  have middle : (column <<< 16) % 2 ^ 64 = column <<< 16 := by
    rw [Nat.shiftLeft_eq]
    omega
  have joined : file <<< 32 ||| column <<< 16 = (file <<< 16 + column) <<< 16 := by
    rw [← Nat.shiftLeft_add_eq_or_of_lt (by rw [Nat.shiftLeft_eq]; omega)]
    simp only [Nat.shiftLeft_eq]
    omega
  rw [upper, middle, joined, ← Nat.shiftLeft_add_eq_or_of_lt lineSize]
  simp only [Nat.shiftLeft_eq]
  omega

@[simp]
theorem lineIn_key : lineIn location.key = location.line := by
  have line : location.line.toNat < 2 ^ 16 := UInt16.toNat_lt _
  rw [← UInt16.toNat_inj, toNat_lineIn, toNat_key]
  omega

@[simp]
theorem columnIn_key : columnIn location.key = location.column := by
  have column : location.column.toUInt16.toNat < 2 ^ 16 := UInt16.toNat_lt _
  have line : location.line.toNat < 2 ^ 16 := UInt16.toNat_lt _
  have bits : (columnIn location.key).toUInt16 = location.column.toUInt16 := by
    rw [← UInt16.toNat_inj, toNat_columnIn, toNat_key]
    omega
  rw [← Int16.toInt16_toUInt16 (columnIn location.key), bits, Int16.toInt16_toUInt16]

@[simp]
theorem fileIn_key : fileIn location.key = location.file := by
  have column : location.column.toUInt16.toNat < 2 ^ 16 := UInt16.toNat_lt _
  have line : location.line.toNat < 2 ^ 16 := UInt16.toNat_lt _
  have bits : (fileIn location.key).value.toUInt32 = location.file.value.toUInt32 := by
    rw [← UInt32.toNat_inj, toNat_fileIn, toNat_key]
    omega
  have value : (fileIn location.key).value = location.file.value := by
    rw [← Int32.toInt32_toUInt32 (fileIn location.key).value, bits, Int32.toInt32_toUInt32]
  exact congrArg FileIndex.mk value

/-- Fields that were cut out of a number make it again. -/
@[simp]
theorem key_fieldsIn (key : UInt64) :
    (Location.mk (lineIn key) (columnIn key) (fileIn key)).key = key := by
  rw [← UInt64.toNat_inj, toNat_key, toNat_lineIn, toNat_columnIn, toNat_fileIn]
  omega

/-- Locations with one key are equal, whatever the signs of column and file: line, column and file
are all found in the key, and every number of 64 bits is a key. -/
theorem keys_tell_locations_apart :
    (∀ first second : Location, first.key = second.key ↔ first = second) ∧
      (∀ location : Location,
        (location.key &&& 0xFFFF).toUInt16 = location.line ∧
          ((location.key >>> 16) &&& 0xFFFF).toUInt16.toInt16 = location.column ∧
          (location.key >>> 32).toUInt32.toInt32 = location.file.value) ∧
      ∀ key : UInt64, ∃ location : Location, location.key = key := by
  refine ⟨?_, ?_, ?_⟩
  · intro first second
    constructor
    · intro same
      have line := first.lineIn_key
      have column := first.columnIn_key
      have file := first.fileIn_key
      rw [same, lineIn_key] at line
      rw [same, columnIn_key] at column
      rw [same, fileIn_key] at file
      cases first
      cases second
      rw [Location.mk.injEq]
      exact ⟨line.symm, column.symm, file.symm⟩
    · rintro rfl
      rfl
  · intro location
    exact ⟨location.lineIn_key, location.columnIn_key, congrArg FileIndex.value location.fileIn_key⟩
  · intro key
    exact ⟨_, key_fieldsIn key⟩

end Frontend.Location
