import PerfStates.Board.Group
import PerfStates.Proofs.Board.Mask

namespace PerfStates.Group

variable {α : Type}

/-- The mask has a bit for each slot, set exactly if the slot is occupied. -/
structure Consistent (group : Group α) : Prop where
  formed : group.mask.WellFormed
  covers : group.mask.bitCount = group.capacity
  marks : ∀ slot, group.mask.test slot = (group.get? slot).isSome

/-- A group of `capacity` slots with the given objects in the lowest of them. -/
def filled (capacity : Nat) (objects : List α) : Group α :=
  ⟨(objects.map some ++ List.replicate (capacity - objects.length) none).toArray,
    SlotMask.lowest capacity objects.length⟩

theorem insert_past {group : Group α} {slot : Nat} (past : group.capacity ≤ slot) (object : α) :
    group.insert slot object = .error (.outOfRange slot group.capacity) := by
  simp only [insert, Array.getElem?_eq_none past]

theorem insert_occupied {group : Group α} {slot : Nat} {present : α}
    (occupied : group.get? slot = some present) (object : α) :
    group.insert slot object = .error (.occupied slot) := by
  have there : group.slots[slot]? = some (some present) := Option.join_eq_some_iff.mp occupied
  simp only [insert, there]

theorem insert_vacant {group : Group α} {slot : Nat} (inside : slot < group.capacity)
    (vacant : group.get? slot = none) (object : α) :
    group.insert slot object =
      .ok ⟨group.slots.setIfInBounds slot (some object), group.mask.set slot⟩ := by
  have there : group.slots[slot]? = some none := by
    have present := Array.getElem?_eq_getElem inside
    simp only [get?, present, Option.join_some] at vacant
    rw [present, vacant]
  simp only [insert, there]

theorem vacant_of_insert {group next : Group α} {slot : Nat} {object : α}
    (stored : group.insert slot object = .ok next) :
    slot < group.capacity ∧ group.get? slot = none :=
  (insert_isOk_iff group slot object).mp ⟨next, stored⟩

/-- Two insertions that succeed one after the other succeed the other way round, and leave the
same group. -/
theorem insert_comm {group next last : Group α} {slot other : Nat} {object second : α}
    (stored : group.insert slot object = .ok next) (again : next.insert other second = .ok last) :
    ∃ between, group.insert other second = .ok between ∧
      between.insert slot object = .ok last := by
  obtain ⟨inside, vacant⟩ := vacant_of_insert stored
  obtain ⟨within, free⟩ := vacant_of_insert again
  rw [capacity_insert stored] at within
  rw [get?_insert stored] at free
  have different : other ≠ slot := by
    rintro rfl
    rw [if_pos rfl] at free
    cases free
  rw [if_neg different] at free
  obtain ⟨between, found⟩ := (insert_isOk_iff group other second).mpr ⟨within, free⟩
  have room : slot < between.capacity := (capacity_insert found).symm ▸ inside
  have open_slot : between.get? slot = none := by
    rw [get?_insert found, if_neg different.symm, vacant]
  have left := insert_vacant room open_slot object
  rw [insert_vacant inside vacant] at stored
  rw [insert_vacant within free] at found
  cases stored
  cases found
  rw [insert_vacant (by simpa [capacity] using within)
    (by simpa [get?, Array.getElem?_setIfInBounds_ne different.symm] using free)] at again
  refine ⟨_, insert_vacant within free second, ?_⟩
  rw [left, ← again, Array.setIfInBounds_comm _ _ different, SlotMask.set_comm]

theorem consistent_empty (capacity : Nat) : (empty capacity : Group α).Consistent where
  formed := SlotMask.wellFormed_empty capacity
  covers := by rw [capacity_empty]; rfl
  marks slot := by rw [get?_empty]; exact SlotMask.test_empty capacity slot

theorem Consistent.insert {group next : Group α} (consistent : group.Consistent) {slot : Nat}
    {object : α} (stored : group.insert slot object = .ok next) : next.Consistent := by
  obtain ⟨inside, vacant⟩ := vacant_of_insert stored
  have covered : slot < group.mask.bitCount := consistent.covers ▸ inside
  have mask : next.mask = group.mask.set slot := by
    rw [insert_vacant inside vacant] at stored
    cases stored
    rfl
  refine ⟨mask ▸ consistent.formed.set slot, ?_, fun other => ?_⟩
  · rw [mask, SlotMask.bitCount_set, consistent.covers, capacity_insert stored]
  · rw [mask, SlotMask.test_set consistent.formed covered, consistent.marks,
      get?_insert stored]
    by_cases same : other = slot <;> simp [same]

theorem get?_past {group : Group α} {slot : Nat} (past : group.capacity ≤ slot) :
    group.get? slot = none := by
  rw [get?, Array.getElem?_eq_none past]
  rfl

theorem get?_erase (group : Group α) (slot other : Nat) :
    (group.erase slot).get? other = if other = slot then none else group.get? other := by
  unfold erase
  cases held : group.get? slot with
  | none =>
    by_cases same : other = slot
    · rw [if_pos same, same, held]
    · rw [if_neg same]
  | some present =>
    by_cases same : other = slot
    · subst same
      simp only [get?, ↓reduceIte, Array.getElem?_setIfInBounds]
      split <;> rfl
    · simp [get?, same, Array.getElem?_setIfInBounds_ne (Ne.symm same)]

theorem Consistent.erase {group : Group α} (consistent : group.Consistent) (slot : Nat) :
    (group.erase slot).Consistent := by
  cases held : group.get? slot with
  | none =>
    have same : group.erase slot = group := by simp only [Group.erase, held]
    rwa [same]
  | some present =>
    have inside : slot < group.capacity := by
      refine Nat.lt_of_not_le fun past => ?_
      rw [get?_past past] at held
      cases held
    have covered : slot < group.mask.bitCount := consistent.covers ▸ inside
    have mask : (group.erase slot).mask = group.mask.clear slot := by
      simp only [Group.erase, held]
    refine ⟨mask ▸ consistent.formed.clear slot, ?_, fun other => ?_⟩
    · rw [mask, SlotMask.bitCount_clear, consistent.covers, capacity_erase]
    · rw [mask, SlotMask.test_clear consistent.formed covered, consistent.marks, get?_erase]
      by_cases same : other = slot <;> simp [same]

@[simp] theorem capacity_modify (group : Group α) (slot : Nat) (change : α → α) :
    (group.modify slot change).capacity = group.capacity := by
  simp [Group.capacity, modify]

theorem get?_modify (group : Group α) (slot : Nat) (change : α → α) (other : Nat) :
    (group.modify slot change).get? other =
      if other = slot then (group.get? slot).map change else group.get? other := by
  simp only [get?, modify, Array.getElem?_modify]
  by_cases same : other = slot
  · subst same
    cases group.slots[other]? <;> simp
  · simp [same, Ne.symm same]

theorem Consistent.modify {group : Group α} (consistent : group.Consistent) (slot : Nat)
    (change : α → α) : (group.modify slot change).Consistent where
  formed := consistent.formed
  covers := by rw [capacity_modify]; exact consistent.covers
  marks other := by
    rw [get?_modify]
    by_cases same : other = slot
    · subst same
      rw [if_pos rfl, Option.isSome_map]
      exact consistent.marks other
    · rw [if_neg same]
      exact consistent.marks other

theorem capacity_filled {capacity : Nat} {objects : List α} (fits : objects.length ≤ capacity) :
    (filled capacity objects).capacity = capacity := by
  simp only [Group.capacity, filled, List.size_toArray, List.length_append, List.length_map,
    List.length_replicate]
  omega

theorem get?_filled (capacity : Nat) (objects : List α) (slot : Nat) :
    (filled capacity objects).get? slot = objects[slot]? := by
  simp only [get?, filled, List.getElem?_toArray]
  by_cases low : slot < objects.length
  · rw [List.getElem?_append_left (by simpa using low)]
    simp [List.getElem?_eq_getElem low]
  · rw [List.getElem?_append_right (by simpa using low), List.getElem?_replicate,
      List.getElem?_eq_none (Nat.le_of_not_lt low)]
    split <;> rfl

theorem empty_eq_filled (capacity : Nat) : (empty capacity : Group α) = filled capacity [] := by
  simp [empty, filled, SlotMask.lowest_zero]

/-- Behind the objects of a filled group there is room for one more, or the group is full. -/
theorem insert_filled (capacity : Nat) (objects : List α) (object : α)
    (fits : objects.length ≤ capacity) :
    (filled capacity objects).insert objects.length object =
      if objects.length < capacity then .ok (filled capacity (objects ++ [object]))
      else .error (.outOfRange objects.length capacity) := by
  have size := capacity_filled fits
  split
  · rename_i room
    have vacant : (filled capacity objects).get? objects.length = none := by
      rw [get?_filled, List.getElem?_eq_none (Nat.le_refl _)]
    rw [insert_vacant (size.symm ▸ room) vacant]
    obtain ⟨rest, rfl⟩ : ∃ rest, capacity = objects.length + 1 + rest :=
      Nat.exists_eq_add_of_le room
    have left : objects.length + 1 + rest - objects.length = rest + 1 := by omega
    simp only [filled, List.setIfInBounds_toArray, left, List.replicate_succ,
      List.length_append, List.length_singleton, Nat.add_sub_cancel_left, ← SlotMask.lowest_succ]
    rw [List.set_append_right _ _ (by simp)]
    simp
  · rename_i full
    rw [insert_past (by omega), size]

theorem consistent_filled {capacity : Nat} {objects : List α}
    (fits : objects.length ≤ capacity) : (filled capacity objects).Consistent where
  formed := SlotMask.wellFormed_lowest capacity objects.length
  covers := by rw [capacity_filled fits]; exact SlotMask.bitCount_lowest _ _
  marks slot := by
    rw [get?_filled, filled, SlotMask.test_lowest fits]
    apply Bool.eq_iff_iff.mpr
    simp

/-- Clearing a consistent group leaves no trace of what it held. -/
theorem Consistent.clear_eq {group : Group α} (consistent : group.Consistent) :
    group.clear = empty group.capacity := by
  have slots : group.slots.map (fun _ => none) =
      (Array.replicate group.capacity none : Array (Option α)) := Array.map_const'
  have words : group.mask.words.map (fun _ => 0) =
      Array.replicate (SlotMask.wordCount group.capacity) (0 : UInt32) := by
    rw [← consistent.covers, ← consistent.formed.words_size]
    exact Array.map_const'
  simp only [clear, empty, SlotMask.clearAll, SlotMask.empty, slots, words, consistent.covers]

/-- The number of slots that hold an object. -/
def occupied (group : Group α) : Nat := group.slots.countP Option.isSome

theorem occupied_empty (capacity : Nat) : (empty capacity : Group α).occupied = 0 := by
  simp [occupied, empty, Array.countP_replicate]

theorem occupied_insert {group next : Group α} {slot : Nat} {object : α}
    (stored : group.insert slot object = .ok next) : next.occupied = group.occupied + 1 := by
  obtain ⟨inside, vacant⟩ := vacant_of_insert stored
  have present : slot < group.slots.size := inside
  have none : group.slots[slot].isSome = false := by
    rw [get?, Array.getElem?_eq_getElem present, Option.join_some] at vacant
    rw [vacant]
    rfl
  rw [insert_vacant inside vacant] at stored
  cases stored
  simp [occupied, Array.setIfInBounds_def, present, Array.countP_set, none]

/-- The mask of a consistent group counts the occupied slots. -/
theorem Consistent.size_eq {group : Group α} (consistent : group.Consistent) :
    group.size = group.occupied := by
  have slots : group.slots.toList = (List.range group.capacity).map group.get? := by
    apply List.ext_getElem
    · simp [capacity]
    · intro slot first second
      have inside : slot < group.slots.size := by simpa using first
      simp [get?, inside]
  rw [size, consistent.formed.count_eq, occupied, ← Array.countP_toList, slots, List.countP_map,
    consistent.covers]
  congr 1
  funext slot
  exact consistent.marks slot

end PerfStates.Group
