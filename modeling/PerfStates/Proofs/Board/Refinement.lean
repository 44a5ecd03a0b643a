import Mathlib.Data.Fintype.Card
import PerfStates.Proofs.Board.Filled
import PerfStates.Proofs.Board.Scan

/-! A group as a bounded partial map. Whatever is called on a group, its slots and its
mask stay two views of one map, and every answer is that of the map. -/

namespace PerfStates

/-- A partial map on the slots below `capacity`. -/
abbrev BoundedMap (capacity : Nat) (α : Type) : Type := Fin capacity → Option α

namespace Group

/-- A call on a group. -/
inductive Operation (α : Type)
  | insert (slot : Nat) (object : α)
  /-- Take the object out of a slot. -/
  | remove (slot : Nat)
  | get (slot : Nat)
  /-- Reach for the object in a slot and change it. -/
  | update (slot : Nat) (change : α → α)
  | clear

/-- What a call gives back. -/
inductive Answer (α : Type)
  | inserted (ended : Except GroupError Unit)
  /-- The object that the slot held, if it did. -/
  | object (found : Option α)
  | cleared
deriving DecidableEq

variable {α : Type}

/-- Make a call on a group. -/
def perform : Operation α → Group α → Answer α × Group α
  | .insert slot object, group =>
    match group.insert slot object with
    | .ok next => (.inserted (.ok ()), next)
    | .error cause => (.inserted (.error cause), group)
  | .remove slot, group => (.object (group.get? slot), group.erase slot)
  | .get slot, group => (.object (group.get? slot), group)
  | .update slot change, group => (.object (group.get? slot), group.modify slot change)
  | .clear, group => (.cleared, group.clear)

/-- Make calls one after another, whatever they give back. -/
def performAll : List (Operation α) → Group α → List (Answer α) × Group α
  | [], group => ([], group)
  | operation :: rest, group =>
    let (answer, next) := perform operation group
    let (answers, last) := performAll rest next
    (answer :: answers, last)

end Group

namespace BoundedMap

open PerfStates.Group (Operation Answer)

variable {α : Type} {capacity : Nat}

def empty : BoundedMap capacity α := fun _ => none

/-- What the map has for a slot, nothing if the slot is out of its bounds. -/
def at? (map : BoundedMap capacity α) (slot : Nat) : Option α :=
  if inside : slot < capacity then map ⟨slot, inside⟩ else none

/-- Change what the map has for one slot, if that is in its bounds. -/
def write (map : BoundedMap capacity α) (slot : Nat) (held : Option α) : BoundedMap capacity α :=
  fun other => if other.val = slot then held else map other

/-- The slots of the map, in increasing order. -/
def slots (map : BoundedMap capacity α) : List Nat :=
  ((List.finRange capacity).filter fun slot => (map slot).isSome).map Fin.val

/-- The pairs of the map, in increasing order of their slots. -/
def entries (map : BoundedMap capacity α) : List (Nat × α) :=
  (List.finRange capacity).filterMap fun slot => (map slot).map (slot.val, ·)

/-- The number of slots that the map has an object for. -/
def size (map : BoundedMap capacity α) : Nat :=
  (Finset.univ.filter fun slot => (map slot).isSome = true).card

/-- What a call means: an object is only put where there is room and nothing else, and a refused
call changes nothing. -/
def perform : Operation α → BoundedMap capacity α → Answer α × BoundedMap capacity α
  | .insert slot object, map =>
    if capacity ≤ slot then (.inserted (.error (.outOfRange slot capacity)), map)
    else if (map.at? slot).isSome then (.inserted (.error (.occupied slot)), map)
    else (.inserted (.ok ()), map.write slot (some object))
  | .remove slot, map => (.object (map.at? slot), map.write slot none)
  | .get slot, map => (.object (map.at? slot), map)
  | .update slot change, map => (.object (map.at? slot), map.write slot ((map.at? slot).map change))
  | .clear, _ => (.cleared, empty)

def performAll : List (Operation α) → BoundedMap capacity α →
    List (Answer α) × BoundedMap capacity α
  | [], map => ([], map)
  | operation :: rest, map =>
    let (answer, next) := perform operation map
    let (answers, last) := performAll rest next
    (answer :: answers, last)

theorem at?_val (map : BoundedMap capacity α) (slot : Fin capacity) :
    map.at? slot = map slot := dif_pos slot.isLt

theorem at?_past (map : BoundedMap capacity α) {slot : Nat} (past : capacity ≤ slot) :
    map.at? slot = none := dif_neg (Nat.not_lt.mpr past)

@[simp] theorem at?_empty (slot : Nat) : (empty : BoundedMap capacity α).at? slot = none := by
  unfold at?
  split <;> rfl

theorem at?_write (map : BoundedMap capacity α) (slot : Nat) (held : Option α) (other : Nat) :
    (map.write slot held).at? other =
      if other = slot ∧ slot < capacity then held else map.at? other := by
  by_cases inside : other < capacity
  · by_cases same : other = slot
    · subst same
      simp [at?, write, inside]
    · simp [at?, write, inside, same]
  · rw [at?_past _ (Nat.le_of_not_lt inside), at?_past _ (Nat.le_of_not_lt inside), if_neg]
    rintro ⟨rfl, within⟩
    exact inside within

/-- Nothing is lost by looking at the slots below the bound only. -/
theorem forall_at?_eq_none_iff {map : BoundedMap capacity α} :
    (∀ slot, map.at? slot = none) ↔ map = empty := by
  constructor
  · intro none
    funext slot
    exact (map.at?_val slot).symm.trans (none slot)
  · rintro rfl
    exact at?_empty

end BoundedMap

namespace Group

variable {α : Type} {capacity : Nat}

/-- The group holds what the map says, and its mask says so too. -/
structure Represents (group : Group α) (map : BoundedMap capacity α) : Prop where
  consistent : group.Consistent
  capacity : group.capacity = capacity
  held : ∀ slot, group.get? slot = map.at? slot

theorem represents_empty (capacity : Nat) :
    (empty capacity : Group α).Represents (BoundedMap.empty : BoundedMap capacity α) where
  consistent := consistent_empty capacity
  capacity := capacity_empty capacity
  held slot := by rw [get?_empty, BoundedMap.at?_empty]

/-- A call on a group that represents a map answers as the map does, and leaves a group that
represents what the map has become. -/
theorem Represents.perform {group : Group α} {map : BoundedMap capacity α}
    (represents : group.Represents map) (operation : Operation α) :
    (Group.perform operation group).1 = (BoundedMap.perform operation map).1 ∧
      (Group.perform operation group).2.Represents (BoundedMap.perform operation map).2 := by
  obtain ⟨consistent, size, held⟩ := represents
  cases operation with
  | insert slot object =>
    simp only [Group.perform, BoundedMap.perform]
    by_cases past : capacity ≤ slot
    · rw [insert_past (size.symm ▸ past), if_pos past, size]
      exact ⟨rfl, consistent, size, held⟩
    · rw [if_neg past]
      have inside : slot < group.capacity := size.symm ▸ Nat.lt_of_not_le past
      cases found : map.at? slot with
      | some present =>
        rw [insert_occupied ((held slot).trans found)]
        exact ⟨rfl, consistent, size, held⟩
      | none =>
        have vacant : group.get? slot = none := (held slot).trans found
        obtain ⟨next, stored⟩ := (insert_isOk_iff group slot object).mpr ⟨inside, vacant⟩
        rw [stored]
        refine ⟨rfl, consistent.insert stored, (capacity_insert stored).trans size, ?_⟩
        intro other
        have within : slot < capacity := Nat.lt_of_not_le past
        simp only [Option.isSome_none, Bool.false_eq_true, ↓reduceIte]
        rw [get?_insert stored, BoundedMap.at?_write, held]
        simp [within]
  | remove slot =>
    refine ⟨congrArg Answer.object (held slot), consistent.erase slot,
      (capacity_erase group slot).trans size, ?_⟩
    intro other
    simp only [Group.perform, BoundedMap.perform]
    rw [get?_erase, BoundedMap.at?_write, held]
    by_cases same : other = slot
    · subst same
      by_cases inside : other < capacity
      · simp [inside]
      · simp [inside, map.at?_past (Nat.le_of_not_lt inside)]
    · simp [same]
  | get slot => exact ⟨congrArg Answer.object (held slot), consistent, size, held⟩
  | update slot change =>
    refine ⟨congrArg Answer.object (held slot), consistent.modify slot change,
      (capacity_modify group slot change).trans size, ?_⟩
    intro other
    simp only [Group.perform, BoundedMap.perform]
    rw [get?_modify, BoundedMap.at?_write, held, held]
    by_cases same : other = slot
    · subst same
      by_cases inside : other < capacity
      · simp [inside]
      · simp [inside, map.at?_past (Nat.le_of_not_lt inside)]
    · simp [same]
  | clear =>
    have cleared : group.clear = Group.empty capacity := by rw [consistent.clear_eq, size]
    simp only [Group.perform, BoundedMap.perform, cleared, true_and]
    exact represents_empty capacity

theorem Represents.performAll (operations : List (Operation α)) {group : Group α}
    {map : BoundedMap capacity α} (represents : group.Represents map) :
    (Group.performAll operations group).1 = (BoundedMap.performAll operations map).1 ∧
      (Group.performAll operations group).2.Represents
        (BoundedMap.performAll operations map).2 := by
  induction operations generalizing group map with
  | nil => exact ⟨rfl, represents⟩
  | cons operation rest ih =>
    obtain ⟨answer, next⟩ := represents.perform operation
    obtain ⟨answers, last⟩ := ih next
    exact ⟨congrArg₂ List.cons answer answers, last⟩

theorem Represents.get?_val {group : Group α} {map : BoundedMap capacity α}
    (represents : group.Represents map) (slot : Fin capacity) : group.get? slot = map slot :=
  (represents.held slot).trans (map.at?_val slot)

theorem Represents.test_mask {group : Group α} {map : BoundedMap capacity α}
    (represents : group.Represents map) (slot : Nat) :
    group.mask.test slot = (map.at? slot).isSome := by
  rw [represents.consistent.marks, represents.held]

theorem Represents.bitCount_mask {group : Group α} {map : BoundedMap capacity α}
    (represents : group.Represents map) : group.mask.bitCount = capacity :=
  represents.consistent.covers.trans represents.capacity

theorem Represents.toList_mask {group : Group α} {map : BoundedMap capacity α}
    (represents : group.Represents map) : group.mask.toList = map.slots := by
  have marks : (group.mask.test ∘ Fin.val : Fin capacity → Bool) = fun slot =>
      (map slot).isSome := by
    funext slot
    rw [Function.comp_apply, represents.test_mask, map.at?_val]
  rw [SlotMask.toList, represents.bitCount_mask, BoundedMap.slots, ← marks,
    ← List.map_coe_finRange_eq_range, List.filter_map]

theorem Represents.toList_eq {group : Group α} {map : BoundedMap capacity α}
    (represents : group.Represents map) : group.toList = map.entries := by
  rw [toList_eq_filterMap, represents.capacity, BoundedMap.entries,
    ← List.map_coe_finRange_eq_range, List.filterMap_map]
  apply List.filterMap_congr
  intro slot _
  rw [Function.comp_apply, represents.get?_val]

theorem Represents.size_eq {group : Group α} {map : BoundedMap capacity α}
    (represents : group.Represents map) : group.size = map.size := by
  have listed : group.size = group.mask.toList.length := by
    rw [Group.size, represents.consistent.formed.count_eq, List.countP_eq_length_filter]
    rfl
  rw [listed, represents.toList_mask, BoundedMap.slots, List.length_map, BoundedMap.size,
    Fin.univ_def]
  simp only [Finset.filter, Finset.card_mk, Multiset.filter_coe, Multiset.coe_card,
    Bool.decide_eq_true]

theorem Represents.isEmpty_iff {group : Group α} {map : BoundedMap capacity α}
    (represents : group.Represents map) : group.isEmpty = true ↔ map = BoundedMap.empty := by
  rw [Group.isEmpty, represents.consistent.formed.isEmpty_iff, ← BoundedMap.forall_at?_eq_none_iff]
  simp only [represents.test_mask, Option.isSome_eq_false_iff, Option.isNone_iff_eq_none]

/-- Any calls, in any order, on a group of any capacity that can be reserved. They answer as a
bounded partial map does, refusals included, and what the group tells of itself afterwards is
what there is to tell of the map: its objects by slot, its size, and its slots as the mask. As
every part of a run from its start is a run, this holds all along. -/
theorem performAll_refines {start : Group α} (reserved : reserve capacity = .ok start)
    (operations : List (Operation α)) :
    let run := performAll operations start
    let meant := BoundedMap.performAll operations (BoundedMap.empty : BoundedMap capacity α)
    let group := run.2
    let map := meant.2
    run.1 = meant.1 ∧ group.capacity = capacity ∧ (∀ slot, group.get? slot = map.at? slot) ∧
      group.size = map.size ∧ (group.isEmpty = true ↔ map = BoundedMap.empty) ∧
      group.toList = map.entries ∧ (group.toList.map Prod.fst).Pairwise (· < ·) ∧
      group.mask.bitCount = capacity ∧ group.mask.toList = map.slots ∧
      ∀ slot, group.mask.test slot = (map.at? slot).isSome := by
  intro run meant group map
  have fresh : start = empty capacity := by
    unfold reserve at reserved
    split at reserved
    · exact (Except.ok.inj reserved).symm
    · cases reserved
  obtain ⟨answers, represents⟩ :=
    (fresh ▸ represents_empty capacity : start.Represents _).performAll operations
  exact ⟨answers, represents.capacity, represents.held, represents.size_eq,
    represents.isEmpty_iff, represents.toList_eq, List.pairwise_map.mpr (pairwise_toList group),
    represents.bitCount_mask, represents.toList_mask, represents.test_mask⟩

/-- A group of 33 slots, past the first word of its mask: both kinds of refusal, and an object put
behind the others and changed. -/
theorem performAll_refines_of_thirty_three :
    let operations : List (Operation Nat) :=
      [.insert 32 5, .insert 33 6, .insert 32 7, .insert 4 8, .update 32 (· + 1), .remove 4,
        .remove 4, .get 32]
    let answers : List (Answer Nat) :=
      [.inserted (.ok ()), .inserted (.error (.outOfRange 33 33)),
        .inserted (.error (.occupied 32)), .inserted (.ok ()), .object (some 5),
        .object (some 8), .object none, .object (some 6)]
    let run := performAll operations (empty 33)
    reserve 33 = .ok (empty 33 : Group Nat) ∧ run.1 = answers ∧ run.2.toList = [(32, 6)] ∧
      run.2.size = 1 ∧ run.2.mask.toList = [32] := by
  intro operations answers run
  have reserved : reserve 33 = .ok (empty 33 : Group Nat) := rfl
  obtain ⟨answered, _, _, size, _, listed, _, _, marked, _⟩ := performAll_refines reserved operations
  refine ⟨reserved, answered.trans ?_, listed.trans ?_, size.trans ?_, marked.trans ?_⟩
  · decide +kernel
  · decide +kernel
  · decide +kernel
  · decide +kernel

end Group

end PerfStates
