import PerfStates.Clock

namespace PerfStates

/-- The frequencies, in MHz, that a performance state asks of one clock. -/
structure ClockLimits where
  clock : ClockId
  nominal : UInt32
  lowest : UInt16
  highest : UInt16
deriving DecidableEq, Repr

/-- A performance state; a lower ordinal is faster. -/
structure Pstate where
  ordinal : Nat
  clocks : List ClockLimits
  lowPower : UInt8
deriving DecidableEq, Repr

namespace Pstate

def tag : UInt8 := 3

instance : BoardObject Pstate where
  tag _ := tag
  types _ := (TypeMask.of superType).insert tag

/-- The first limits that the state lists for `clock`. -/
def limits? (state : Pstate) (clock : ClockId) : Option ClockLimits :=
  state.clocks.find? fun limits => limits.clock = clock

end Pstate

end PerfStates
