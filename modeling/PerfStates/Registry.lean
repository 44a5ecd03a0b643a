import PerfStates.Failure
import PerfStates.Pstate

/-! The registry of performance states, by their position in the table. Its lock is
poisoned when a holder fails; from then on only teardown works. -/

namespace PerfStates

/-- The stored states, how many were stored, and whether the lock is poisoned. The
states are kept in a group of the common shape. -/
structure Registry where
  states : Group Pstate
  levels : Nat
  poisoned : Bool
  capacity_states : states.capacity = Group.smallCapacity

namespace Registry

def empty : Registry where
  states := Group.empty Group.smallCapacity
  levels := 0
  poisoned := false
  capacity_states := Group.capacity_empty _

def construct {σ : Type} : Action Message σ Registry := do
  Action.log .debug s!"pstate registry constructed ({empty.states.capacity} slots)"
  return empty

def lock (registry : Registry) : Except Failure Unit :=
  if registry.poisoned then .error .lockPoisoned else .ok ()

/-- The registry after a holder of its lock failed. -/
def poison (registry : Registry) : Registry := { registry with poisoned := true }

/-- Store `state` in an empty slot and count it. -/
def store (registry : Registry) (slot : Nat) (state : Pstate) : Except Failure Registry :=
  match stored : registry.states.insert slot state with
  | .error cause => .error (.ofGroup cause)
  | .ok states =>
    .ok { registry with
      states
      levels := registry.levels + 1
      capacity_states := (Group.capacity_insert stored).trans registry.capacity_states }

/-- Take the lock and store `state` in an empty slot. -/
def insert (registry : Registry) (slot : Nat) (state : Pstate) : Except Failure Registry := do
  registry.lock
  registry.store slot state

def levelCount (registry : Registry) : Except Failure Nat := do
  registry.lock
  return registry.levels

/-- Every stored state with its slot, lowest slot first. -/
def snapshot (registry : Registry) : Except Failure (List (Nat × Pstate)) := do
  registry.lock
  return registry.states.toList

def lowest? (registry : Registry) (ordinal : Nat) : Option Pstate :=
  (registry.states.toList.map Prod.snd).find? fun state => state.ordinal = ordinal

/-- The first state with the given ordinal, in slot order. -/
def find (registry : Registry) (ordinal : Nat) : Except Failure (Option Pstate) := do
  registry.lock
  return registry.lowest? ordinal

/-- The limits of `clock` in the first state with the given ordinal. -/
def limits (registry : Registry) (ordinal : Nat) (clock : ClockId) :
    Except Failure (Option ClockLimits) := do
  registry.lock
  return (registry.lowest? ordinal).bind fun state => state.limits? clock

/-- Take a registry down, poisoned or not, and note how many states it had stored. -/
def destroy {σ : Type} (registry : Registry) : Action Message σ Unit :=
  Action.log .info s!"pstate registry destroyed ({registry.levels} levels)"

end Registry

end PerfStates
