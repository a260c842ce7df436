import Frontend.Selection.Basic
import Mathlib.Data.Finset.Card
import Mathlib.Data.Finset.Range
import Mathlib.Data.Finset.SDiff
import Mathlib.Logic.Function.Basic

/-!
# Selections are finite sets

A selection stands for the finite set of the positions whose bit is set. Each operation does to the
words what the operation of the same name does to these sets, so that a run of operations over any
number of selections computes what the same run over finite sets computes. What can be asked of a
selection is read off its set, the words are determined by it, and a selection that was made by
operations has no other positions than those of its members.

That members are listed in the order of their positions is a fact about the listed values, which are
those with a position below `count`; a member at or above it counts, but is never listed.
-/

namespace Frontend

universe u v w

open Enumerated

namespace Selection

variable {α : Type u}

/-! ## The set that a selection stands for -/

/-- The positions whose bit is set. -/
def positions (selection : Selection α) : Finset Nat :=
  {position ∈ Finset.range 128 | selection.bits.getLsbD position = true}

section

variable (selection left right : Selection α) (position : Nat)

@[simp]
theorem mem_positions :
    position ∈ selection.positions ↔ selection.bits.getLsbD position = true := by
  simp only [positions, Finset.mem_filter, Finset.mem_range, and_iff_right_iff_imp]
  exact BitVec.lt_of_getLsbD

/-- The words are determined by the set. -/
theorem positions_inj : left.positions = right.positions ↔ left = right := by
  constructor
  · intro same
    rw [← bits_inj]
    apply BitVec.eq_of_getLsbD_eq
    intro position _
    rw [Bool.eq_iff_iff, ← mem_positions, ← mem_positions, same]
  · rintro rfl
    rfl

@[simp]
theorem positions_empty : (empty : Selection α).positions = ∅ := by
  ext position
  simp

@[simp]
theorem positions_union : (left ∪ right).positions = left.positions ∪ right.positions := by
  ext position
  simp

@[simp]
theorem positions_inter : (left ∩ right).positions = left.positions ∩ right.positions := by
  ext position
  simp

@[simp]
theorem positions_sdiff : (left \ right).positions = left.positions \ right.positions := by
  ext position
  by_cases held : left.bits.getLsbD position = true
  · simp [held, BitVec.lt_of_getLsbD held]
  · simp [held]

/-! ## Questions about the set -/

theorem isEmpty_iff : selection.isEmpty = true ↔ selection.positions = ∅ := by
  rw [← positions_empty (α := α), positions_inj]
  cases selection
  simp [isEmpty, empty]

theorem isSubset_iff : left.isSubset right = true ↔ left.positions ⊆ right.positions := by
  rw [← Finset.sdiff_eq_empty_iff_subset, ← positions_sdiff, ← isEmpty_iff]
  rfl

/-- The bits that are set below a bound are counted one by one. -/
theorem cpopNatRec_eq_card {width : Nat} (word : BitVec width) (bound : Nat) :
    word.cpopNatRec bound 0 =
      {position ∈ Finset.range bound | word.getLsbD position = true}.card := by
  induction bound with
  | zero => rfl
  | succ bound ih =>
      rw [BitVec.cpopNatRec_succ, BitVec.cpopNatRec_add, ih, Finset.range_add_one,
        Finset.filter_insert]
      cases bit : word.getLsbD bound <;> simp

/-- Counting the bits of both words counts the positions. -/
theorem size_eq_card : selection.size = selection.positions.card := by
  rw [size, Nat.add_comm, ← BitVec.toNat_cpop_append, BitVec.toNat_cpop, cpopNatRec_eq_card]
  rfl

end

section

variable [Enumerated α] (selection : Selection α) (value : α)

theorem contains_iff : selection.contains value = true ↔ index value ∈ selection.positions := by
  rw [contains_eq, mem_positions]

/-- The members are listed in the order of their positions. -/
theorem map_index_toList :
    selection.toList.map index =
      (List.range (count α)).filter fun position => decide (position ∈ selection.positions) := by
  rw [toList, all]
  have listed : ∀ position ∈ List.range (count α), position < count α := by simp
  generalize List.range (count α) = rest at listed
  induction rest with
  | nil => rfl
  | cons first rest ih =>
      obtain ⟨value, found, position⟩ := ofIndex?_of_lt (listed first List.mem_cons_self)
      have later := ih fun position member => listed position (List.mem_cons_of_mem first member)
      have held : selection.contains value = decide (first ∈ selection.positions) := by
        rw [Bool.eq_iff_iff, contains_iff, position, decide_eq_true_iff]
      rw [List.filterMap_cons_some found, List.filter_cons, List.filter_cons, held]
      split
      · rw [List.map_cons, position, later]
      · exact later

/-- The members are the listed values at the positions in the set. -/
theorem toList_eq :
    selection.toList = ((List.range (count α)).filter fun position =>
      decide (position ∈ selection.positions)).filterMap ofIndex? := by
  rw [← map_index_toList, List.filterMap_map]
  have listed : ∀ value ∈ selection.toList, ofIndex? (index value) = some value := by
    intro value member
    rw [toList, all, List.mem_filter, List.mem_filterMap] at member
    obtain ⟨⟨position, -, found⟩, -⟩ := member
    rw [(index_of_ofIndex? found).2, found]
  exact ((List.filterMap_congr listed).trans List.filterMap_some).symm

/-! ## Operations on the set -/

@[simp]
theorem positions_insert :
    (selection.insert value).positions = Insert.insert (index value) selection.positions := by
  ext position
  rw [mem_positions, bits_insert, BitVec.getLsbD_or, BitVec.getLsbD_twoPow, Finset.mem_insert,
    mem_positions, decide_eq_true (index_lt value), Bool.true_and, Bool.or_eq_true,
    decide_eq_true_iff]
  exact or_comm.trans (or_congr_left eq_comm)

@[simp]
theorem positions_erase :
    (selection.erase value).positions = selection.positions.erase (index value) := by
  ext position
  rw [mem_positions, bits_erase, Finset.mem_erase, mem_positions]
  by_cases held : selection.bits.getLsbD position = true
  · have small := BitVec.lt_of_getLsbD held
    simp [held, small]
  · simp [held]

theorem positions_set (present : Bool) :
    (selection.set value present).positions =
      if present then Insert.insert (index value) selection.positions
      else selection.positions.erase (index value) := by
  cases present <;> simp [set]

theorem positions_insertMany (values : List α) :
    (selection.insertMany values).positions =
      selection.positions ∪ (values.map index).toFinset := by
  induction values generalizing selection with
  | nil => simp [insertMany]
  | cons first values ih =>
      rw [insertMany, List.foldl_cons, ← insertMany, ih, positions_insert, List.map_cons,
        List.toFinset_cons, Finset.insert_union, Finset.union_insert]

theorem positions_ofList (values : List α) :
    (ofList values).positions = (values.map index).toFinset := by
  rw [ofList, positions_insertMany, positions_empty, Finset.empty_union]

/-- The full selection has exactly the positions of the values that can be listed. -/
theorem positions_full : (full : Selection α).positions = Finset.range (count α) := by
  ext position
  simp only [full, positions_ofList, List.mem_toFinset, List.mem_map, all, List.mem_filterMap,
    List.mem_range, Finset.mem_range]
  constructor
  · rintro ⟨value, ⟨listed, -, found⟩, rfl⟩
    exact (index_of_ofIndex? found).2 ▸ (index_of_ofIndex? found).1
  · intro below
    obtain ⟨value, found, position⟩ := ofIndex?_of_lt (α := α) below
    exact ⟨value, ⟨_, below, found⟩, position⟩

theorem insertNew_fst :
    (selection.insertNew value).1 = decide (index value ∉ selection.positions) := by
  have new : (selection.insertNew value).1 = !selection.contains value :=
    (Bool.not_not _).symm
  rw [new, Bool.eq_iff_iff, Bool.not_eq_true', ← Bool.not_eq_true, contains_iff, decide_eq_true_iff]

theorem eraseOld_fst :
    (selection.eraseOld value).1 = decide (index value ∈ selection.positions) := by
  have old : (selection.eraseOld value).1 = selection.contains value := rfl
  rw [old, Bool.eq_iff_iff, contains_iff, decide_eq_true_iff]

end

/-! ## Runs -/

variable {ρ : Type v}

/-- One operation on selections that are kept under names. The first three make a selection anew, the
next four change one, and the last three put two together under a third name, or one of theirs. -/
inductive Use (ρ : Type v) (α : Type u) where
  | empty (target : ρ)
  | full (target : ρ)
  | ofList (target : ρ) (values : List α)
  | insertMany (target : ρ) (values : List α)
  | insert (target : ρ) (value : α)
  | erase (target : ρ) (value : α)
  | set (target : ρ) (value : α) (present : Bool)
  | union (target left right : ρ)
  | inter (target left right : ρ)
  | sdiff (target left right : ρ)

namespace Use

/-- The name that the operation writes to. -/
def target : Use ρ α → ρ
  | .empty target | .full target | .ofList target _ | .insertMany target _ | .insert target _
  | .erase target _ | .set target _ _ | .union target _ _ | .inter target _ _
  | .sdiff target _ _ => target

variable [Enumerated α]

/-- What the operation answers, if it does, and the selection that it makes. -/
def result (held : ρ → Selection α) : Use ρ α → Option Bool × Selection α
  | .empty _ => (none, .empty)
  | .full _ => (none, .full)
  | .ofList _ values => (none, .ofList values)
  | .insertMany target values => (none, (held target).insertMany values)
  | .insert target value =>
      let (new, selection) := (held target).insertNew value
      (some new, selection)
  | .erase target value =>
      let (old, selection) := (held target).eraseOld value
      (some old, selection)
  | .set target value present => (none, (held target).set value present)
  | .union _ left right => (none, held left ∪ held right)
  | .inter _ left right => (none, held left ∩ held right)
  | .sdiff _ left right => (none, held left \ held right)

/-- The same of finite sets of positions. -/
def setResult (held : ρ → Finset Nat) : Use ρ α → Option Bool × Finset Nat
  | .empty _ => (none, ∅)
  | .full _ => (none, Finset.range (count α))
  | .ofList _ values => (none, (values.map index).toFinset)
  | .insertMany target values => (none, held target ∪ (values.map index).toFinset)
  | .insert target value =>
      (some (decide (index value ∉ held target)), Insert.insert (index value) (held target))
  | .erase target value =>
      (some (decide (index value ∈ held target)), (held target).erase (index value))
  | .set target value present =>
      (none, if present then Insert.insert (index value) (held target)
        else (held target).erase (index value))
  | .union _ left right => (none, held left ∪ held right)
  | .inter _ left right => (none, held left ∩ held right)
  | .sdiff _ left right => (none, held left \ held right)

/-- An operation does to selections what it does to the sets that they stand for. -/
theorem result_agrees (use : Use ρ α) {held : ρ → Selection α} {sets : ρ → Finset Nat}
    (agree : ∀ name, (held name).positions = sets name) :
    (use.result held).1 = (use.setResult sets).1 ∧
      (use.result held).2.positions = (use.setResult sets).2 := by
  cases use with
  | empty => exact ⟨rfl, positions_empty⟩
  | full => exact ⟨rfl, positions_full⟩
  | ofList _ values => exact ⟨rfl, positions_ofList values⟩
  | insertMany target values =>
      exact ⟨rfl, by rw [result, positions_insertMany, agree, setResult]⟩
  | insert target value =>
      constructor
      · rw [setResult, ← agree, ← insertNew_fst]
        rfl
      · exact (positions_insert _ _).trans (by rw [agree, setResult])
  | erase target value =>
      constructor
      · rw [setResult, ← agree, ← eraseOld_fst]
        rfl
      · exact (positions_erase _ _).trans (by rw [agree, setResult])
  | set target value present => exact ⟨rfl, by rw [result, positions_set, agree, setResult]⟩
  | union _ left right => exact ⟨rfl, by rw [result, positions_union, agree, agree, setResult]⟩
  | inter _ left right => exact ⟨rfl, by rw [result, positions_inter, agree, agree, setResult]⟩
  | sdiff _ left right => exact ⟨rfl, by rw [result, positions_sdiff, agree, agree, setResult]⟩

/-- Every position in the sets is that of some value. -/
def Valued (α : Type u) [Enumerated α] (sets : ρ → Finset Nat) : Prop :=
  ∀ name, ∀ position ∈ sets name, ∃ value : α, index value = position

/-- Operations make no positions that are not those of values. -/
theorem valued_setResult (use : Use ρ α) {sets : ρ → Finset Nat} (valued : Valued α sets) :
    ∀ position ∈ (use.setResult sets).2, ∃ value : α, index value = position := by
  have inserted : ∀ target (value : α), ∀ position ∈ Insert.insert (index value) (sets target),
      ∃ value : α, index value = position := by
    rintro target value position member
    rcases Finset.mem_insert.mp member with rfl | old
    · exact ⟨value, rfl⟩
    · exact valued target position old
  have erased : ∀ target (value : α), ∀ position ∈ (sets target).erase (index value),
      ∃ value : α, index value = position := by
    rintro target value position member
    exact valued target position (Finset.mem_of_mem_erase member)
  have listed : ∀ (values : List α), ∀ position ∈ (values.map index).toFinset,
      ∃ value : α, index value = position := by
    rintro values position member
    obtain ⟨value, -, same⟩ := List.mem_map.mp (List.mem_toFinset.mp member)
    exact ⟨value, same⟩
  cases use with
  | empty => simp [setResult]
  | full =>
      rintro position member
      obtain ⟨value, -, same⟩ := ofIndex?_of_lt (α := α) (Finset.mem_range.mp member)
      exact ⟨value, same⟩
  | ofList _ values => exact listed values
  | insertMany target values =>
      rintro position member
      rcases Finset.mem_union.mp member with old | new
      · exact valued target position old
      · exact listed values position new
  | insert target value => exact inserted target value
  | erase target value => exact erased target value
  | set target value present =>
      cases present with
      | true => exact inserted target value
      | false => exact erased target value
  | union _ left right =>
      rintro position member
      rcases Finset.mem_union.mp member with inLeft | inRight
      · exact valued left position inLeft
      · exact valued right position inRight
  | inter _ left _ =>
      rintro position member
      exact valued left position (Finset.mem_inter.mp member).1
  | sdiff _ left _ =>
      rintro position member
      exact valued left position (Finset.mem_sdiff.mp member).1

end Use

variable [DecidableEq ρ]

/-- The answers of a list of operations, first to last, and what is held in the end, where `result`
says what one operation does. -/
def runUses {σ : Type w} (result : (ρ → σ) → Use ρ α → Option Bool × σ) :
    (ρ → σ) → List (Use ρ α) → List (Option Bool) × (ρ → σ)
  | held, [] => ([], held)
  | held, use :: uses =>
      let (answer, made) := result held use
      let (answers, last) := runUses result (Function.update held use.target made) uses
      (answer :: answers, last)

variable [Enumerated α]

/-- Runs of operations on selections and on the sets that they stand for agree all along. -/
theorem runUses_agrees (uses : List (Use ρ α)) {held : ρ → Selection α} {sets : ρ → Finset Nat}
    (agree : ∀ name, (held name).positions = sets name) :
    (runUses (fun held use => use.result held) held uses).1 =
        (runUses (fun sets use => use.setResult sets) sets uses).1 ∧
      ∀ name, ((runUses (fun held use => use.result held) held uses).2 name).positions =
        (runUses (fun sets use => use.setResult sets) sets uses).2 name := by
  induction uses generalizing held sets with
  | nil => exact ⟨rfl, agree⟩
  | cons use uses ih =>
      obtain ⟨answer, made⟩ := use.result_agrees agree
      have next : ∀ name, (Function.update held use.target (use.result held).2 name).positions =
          Function.update sets use.target (use.setResult sets).2 name := by
        intro name
        by_cases written : name = use.target
        · rw [written, Function.update_self, Function.update_self, made]
        · rw [Function.update_of_ne written, Function.update_of_ne written, agree]
      obtain ⟨answers, last⟩ := ih next
      exact ⟨congrArg₂ List.cons answer answers, last⟩

theorem valued_runUses (uses : List (Use ρ α)) {sets : ρ → Finset Nat}
    (valued : Use.Valued α sets) :
    Use.Valued α (runUses (fun sets use => use.setResult sets) sets uses).2 := by
  induction uses generalizing sets with
  | nil => exact valued
  | cons use uses ih =>
      apply ih
      intro name
      by_cases written : name = use.target
      · rw [written, Function.update_self]
        exact use.valued_setResult valued
      · rw [Function.update_of_ne written]
        exact valued name

/-- Selections are finite sets. Operations on any number of selections, all empty at first, answer
and make what the same operations on finite sets of positions do. In every state that they lead to, a
selection stands for the set of the positions of its members; its size is the number of these, and it
is empty, included in another one, or the same as another one exactly if its set is. Its listed
members are those with a position below `count`, once each, in increasing order, and its text gives
their names. -/
theorem selections_are_finite_sets (uses : List (Use ρ α)) :
    let ran := runUses (fun held use => use.result held) (fun _ => Selection.empty) uses
    let meant := runUses (fun sets use => use.setResult sets) (fun _ => (∅ : Finset Nat)) uses
    ran.1 = meant.1 ∧
    ∀ name, let selection := ran.2 name
      selection.positions = meant.2 name ∧
      (∀ position, position ∈ selection.positions ↔
        ∃ value, selection.contains value = true ∧ index value = position) ∧
      selection.size = selection.positions.card ∧
      (selection.isEmpty = true ↔ selection.positions = ∅) ∧
      (∀ other, selection.isSubset (ran.2 other) = true ↔
        selection.positions ⊆ (ran.2 other).positions) ∧
      (∀ other, selection = ran.2 other ↔
        ∀ value, selection.contains value = (ran.2 other).contains value) ∧
      selection.toList.map index =
        (List.range (count α)).filter (fun position => decide (position ∈ selection.positions)) ∧
      ∀ [Named α], selection.debugText = "\x7b" ++ ", ".intercalate
        ((((List.range (count α)).filter fun position =>
          decide (position ∈ selection.positions)).filterMap ofIndex?).map
            (Named.name : α → String)) ++ "\x7d" := by
  intro ran meant
  have agree : ∀ name, ((fun _ => Selection.empty : ρ → Selection α) name).positions = ∅ :=
    fun _ => positions_empty
  obtain ⟨answers, stands⟩ := runUses_agrees uses agree
  have valued : Use.Valued α meant.2 := by
    apply valued_runUses uses
    rintro name position ⟨⟩
  have members : ∀ name position, position ∈ (ran.2 name).positions ↔
      ∃ value, (ran.2 name).contains value = true ∧ index value = position := by
    intro name position
    constructor
    · intro member
      obtain ⟨value, rfl⟩ := valued name position (stands name ▸ member)
      exact ⟨value, (contains_iff _ value).mpr member, rfl⟩
    · rintro ⟨value, held, rfl⟩
      exact (contains_iff _ value).mp held
  refine ⟨answers, fun name => ⟨stands name, members name, size_eq_card _, isEmpty_iff _,
    fun other => isSubset_iff _ _, fun other => ?_, map_index_toList _, ?_⟩⟩
  · constructor
    · intro same value
      rw [same]
    · intro same
      rw [← positions_inj]
      ext position
      rw [members name, members other]
      simp only [same]
  · intro named
    rw [debugText, toList_eq]

end Selection

end Frontend
