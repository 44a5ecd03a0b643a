import PerfStates.Board.TypeMask
import PerfStates.Board.SlotMask

/-! Object groups. A group has a fixed number of slots, each empty or holding
one object, and a validity mask with the bit of every occupied slot set. -/

namespace PerfStates

/-- Why a group cannot be made or a slot cannot be filled. -/
inductive GroupError
  | allocation (capacity : Nat)
  | outOfRange (slot capacity : Nat)
  | occupied (slot : Nat)
deriving DecidableEq, Repr

def GroupError.message : GroupError → String
  | allocation capacity => s!"unable to reserve {capacity} board object slots"
  | outOfRange slot capacity =>
    s!"board object index {slot} out of range (capacity {capacity})"
  | occupied slot => s!"board object slot {slot} already occupied"

/-- A fixed number of slots and the mask of the occupied ones. -/
structure Group (α : Type) where
  slots : Array (Option α)
  mask : SlotMask
deriving Repr

namespace Group

def smallCapacity : Nat := 32

def largeCapacity : Nat := 255

/-- The least capacity whose storage is beyond what a machine can address. -/
def capacityLimit : Nat := 1 <<< 62

variable {α : Type}

def empty (capacity : Nat) : Group α :=
  ⟨Array.replicate capacity none, SlotMask.empty capacity⟩

/-- A group with `capacity` empty slots, if that many can be reserved. -/
def reserve (capacity : Nat) : Except GroupError (Group α) :=
  if capacity < capacityLimit then .ok (empty capacity) else .error (.allocation capacity)

def capacity (group : Group α) : Nat := group.slots.size

def get? (group : Group α) (slot : Nat) : Option α := group.slots[slot]?.join

/-- Put `object` into an empty slot. -/
def insert (group : Group α) (slot : Nat) (object : α) : Except GroupError (Group α) :=
  match group.slots[slot]? with
  | none => .error (.outOfRange slot group.capacity)
  | some (some _) => .error (.occupied slot)
  | some none =>
    .ok ⟨group.slots.setIfInBounds slot (some object), group.mask.set slot⟩

/-- Empty `slot`, giving the group without its object. -/
def erase (group : Group α) (slot : Nat) : Group α :=
  match group.get? slot with
  | none => group
  | some _ => ⟨group.slots.setIfInBounds slot none, group.mask.clear slot⟩

/-- Change the object in `slot`, if there is one. -/
def modify (group : Group α) (slot : Nat) (change : α → α) : Group α :=
  { group with slots := group.slots.modify slot (Option.map change) }

def clear (group : Group α) : Group α :=
  ⟨group.slots.map fun _ => none, group.mask.clearAll⟩

/-- The number of objects, read off the validity mask. -/
def size (group : Group α) : Nat := group.mask.count

/-- Whether the validity mask has no bit set. -/
def isEmpty (group : Group α) : Bool := group.mask.isEmpty

/-- The objects with their slots, lowest slot first. -/
def toList (group : Group α) : List (Nat × α) :=
  group.slots.toList.zipIdx.filterMap fun (object, slot) => object.map (slot, ·)

@[simp] theorem capacity_empty (capacity : Nat) :
    (empty capacity : Group α).capacity = capacity := by
  simp [Group.capacity, empty]

theorem capacity_insert {group next : Group α} {slot : Nat} {object : α}
    (stored : group.insert slot object = .ok next) : next.capacity = group.capacity := by
  unfold insert at stored
  split at stored
  · cases stored
  · cases stored
  · cases stored
    simp [capacity]

@[simp] theorem capacity_erase (group : Group α) (slot : Nat) :
    (group.erase slot).capacity = group.capacity := by
  unfold erase
  split <;> simp [capacity]

@[simp] theorem get?_empty (capacity slot : Nat) :
    (empty capacity : Group α).get? slot = none := by
  simp only [get?, empty, Array.getElem?_replicate]
  split <;> rfl

theorem get?_insert {group next : Group α} {slot : Nat} {object : α}
    (stored : group.insert slot object = .ok next) (other : Nat) :
    next.get? other = if other = slot then some object else group.get? other := by
  unfold insert at stored
  split at stored
  · cases stored
  · cases stored
  · rename_i vacant
    cases stored
    have present : slot < group.slots.size := (Array.getElem?_eq_some_iff.mp vacant).1
    by_cases same : other = slot
    · subst other
      simp [get?, Array.getElem?_setIfInBounds_self_of_lt present]
    · simp [get?, Array.getElem?_setIfInBounds_ne (Ne.symm same), same]

theorem insert_isOk_iff (group : Group α) (slot : Nat) (object : α) :
    (∃ next, group.insert slot object = .ok next) ↔
      slot < group.capacity ∧ group.get? slot = none := by
  unfold insert get? capacity
  split
  · rename_i absent
    have missing := Array.getElem?_eq_none_iff.mp absent
    exact ⟨fun ⟨_, refused⟩ => (nomatch refused), fun ⟨present, _⟩ => absurd present (by omega)⟩
  · rename_i occupied
    simp [occupied]
  · rename_i vacant
    have present := (Array.getElem?_eq_some_iff.mp vacant).1
    exact ⟨fun _ => ⟨present, by rw [vacant]; rfl⟩, fun _ => ⟨_, rfl⟩⟩

end Group

end PerfStates
