import PerfStates.Module

namespace PerfStates

/-- Whether the unit programmed the memory clock, and how often it was shut down. -/
structure MemoryClock where
  initialised : Bool
  shutdowns : UInt32
deriving DecidableEq, Repr

namespace MemoryClock

def start : MemoryClock := ⟨false, 0⟩

/-- One more shutdown; the count stays at its largest value. -/
def countShutdown (shutdowns : UInt32) : UInt32 :=
  if shutdowns = UInt32.ofNat (UInt32.size - 1) then shutdowns else shutdowns + 1

instance : DomainModule MemoryClock where
  domain _ := .mclk
  setUpSoftware _ := pure ()
  setUpPmu _ := do
    DomainModule.shared (Workspace.send .initMemoryClock)
    DomainModule.own (Attempt.modify fun clock => { clock with initialised := true })
  free := do
    let clock ← Action.get
    Action.log .debug s!"mclk: deinit (initialised: {clock.initialised})"
    Action.modify fun clock => ⟨false, countShutdown clock.shutdowns⟩

end MemoryClock

end PerfStates
