/-!
# Dictionaries

A dictionary gives each of finitely many keys one value. Inserting under a key that is taken
replaces the value where it stands; a new key goes to the end. `find?` is the view through which the
other operations are described.
-/

namespace Frontend

universe u v

/-- Keys with their values, each key once, in order of first insertion. -/
structure Dictionary (κ : Type u) (ν : Type v) where
  entries : List (κ × ν)
deriving DecidableEq

namespace Dictionary

variable {κ : Type u} {ν : Type v}

/-- No key has a value. -/
def empty : Dictionary κ ν :=
  ⟨[]⟩

/-- The number of keys. -/
def size (dictionary : Dictionary κ ν) : Nat :=
  dictionary.entries.length

/-- No key has a value. -/
def isEmpty (dictionary : Dictionary κ ν) : Bool :=
  dictionary.entries.isEmpty

variable [DecidableEq κ]

/-- The first value under a key in a list of entries. -/
def findIn (key : κ) : List (κ × ν) → Option ν
  | [] => none
  | entry :: rest => if entry.1 = key then some entry.2 else findIn key rest

/-- The entries with a value put under a key. -/
def insertIn (key : κ) (value : ν) : List (κ × ν) → List (κ × ν)
  | [] => [(key, value)]
  | entry :: rest =>
      if entry.1 = key then (key, value) :: rest else entry :: insertIn key value rest

/-- The value under a key. -/
def find? (dictionary : Dictionary κ ν) (key : κ) : Option ν :=
  findIn key dictionary.entries

/-- The key has a value. -/
def contains (dictionary : Dictionary κ ν) (key : κ) : Bool :=
  (dictionary.find? key).isSome

/-- Gives a key a value. -/
def insert (dictionary : Dictionary κ ν) (key : κ) (value : ν) : Dictionary κ ν :=
  ⟨insertIn key value dictionary.entries⟩

/-- Takes the value of a key away. -/
def erase (dictionary : Dictionary κ ν) (key : κ) : Dictionary κ ν :=
  ⟨dictionary.entries.filter fun entry => entry.1 ≠ key⟩

@[simp]
theorem find?_empty (key : κ) : (empty : Dictionary κ ν).find? key = none :=
  rfl

theorem findIn_insertIn (entries : List (κ × ν)) (key other : κ) (value : ν) :
    findIn other (insertIn key value entries) =
      if key = other then some value else findIn other entries := by
  induction entries with
  | nil => simp [insertIn, findIn]
  | cons entry rest ih => grind [insertIn, findIn]

@[simp]
theorem find?_insert (dictionary : Dictionary κ ν) (key other : κ) (value : ν) :
    (dictionary.insert key value).find? other =
      if key = other then some value else dictionary.find? other :=
  findIn_insertIn dictionary.entries key other value

theorem findIn_filter (entries : List (κ × ν)) (key other : κ) :
    findIn other (entries.filter fun entry => entry.1 ≠ key) =
      if key = other then none else findIn other entries := by
  induction entries with
  | nil => simp [findIn]
  | cons entry rest ih => grind [findIn]

@[simp]
theorem find?_erase (dictionary : Dictionary κ ν) (key other : κ) :
    (dictionary.erase key).find? other =
      if key = other then none else dictionary.find? other :=
  findIn_filter dictionary.entries key other

end Dictionary

end Frontend
