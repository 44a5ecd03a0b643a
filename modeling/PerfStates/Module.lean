import PerfStates.Capability
import PerfStates.Clock
import PerfStates.Pmu.Channel

/-! The contract of a domain module: a software half that builds its model, a half
that brings the model to the power-management unit, and a release. A module sees
its own state and a workspace that it shares with the other modules. -/

namespace PerfStates

/-- The half of a module that a setup call is for. -/
inductive Phase
  | software
  | pmu
deriving DecidableEq, Repr

def Phase.name : Phase → String
  | software => "software"
  | pmu => "pmu"

/-- Why a domain could not be set up. -/
inductive ModuleError
  | invalid (reason : String)
  | group (cause : GroupError)
  | allocation (bytes : Nat)
  | notConstructed
  | channel (cause : ChannelError)
deriving DecidableEq, Repr

def ModuleError.message : ModuleError → String
  | invalid reason => reason
  | group cause => cause.message
  | allocation bytes => s!"unable to reserve {bytes} bytes of unit state"
  | notConstructed => "software model not constructed"
  | channel cause => cause.message

/-- What modules share: the clock domains and the channel to the unit. -/
structure Workspace (P : Type) where
  clocks : Group ClockDomain
  channel : P

namespace Workspace

variable {P : Type}

def start (channel : P) : Workspace P := ⟨Group.empty Group.smallCapacity, channel⟩

def send [Channel P] (command : Command) :
    Attempt Message (Workspace P) ModuleError Unit := do
  let _ ← Attempt.mapError ModuleError.channel
    (Attempt.onPart Workspace.channel (fun channel workspace => { workspace with channel })
      (Channel.exchange command))

end Workspace

/-- What the bring-up may ask of the module of a domain. The module may change its
own state, the first part of the pair, and the workspace. -/
class DomainModule (M : Type) where
  /-- The domain that the module stands for. -/
  domain : M → Domain
  /-- Build the model in memory. -/
  setUpSoftware {P : Type} [Channel P] (capabilities : Capabilities) :
    Attempt Message (M × Workspace P) ModuleError Unit
  /-- Bring the model to the unit. -/
  setUpPmu {P : Type} [Channel P] (capabilities : Capabilities) :
    Attempt Message (M × Workspace P) ModuleError Unit
  /-- Let go of what the software half built. -/
  free : Action Message M Unit

namespace DomainModule

variable {M P : Type}

def own {ε α : Type} (attempt : Attempt Message M ε α) :
    Attempt Message (M × Workspace P) ε α :=
  Attempt.onPart Prod.fst (fun state both => (state, both.2)) attempt

def shared {ε α : Type} (attempt : Attempt Message (Workspace P) ε α) :
    Attempt Message (M × Workspace P) ε α :=
  Attempt.onPart Prod.snd (fun state both => (both.1, state)) attempt

def setUp [DomainModule M] [Channel P] (phase : Phase) (capabilities : Capabilities) :
    Attempt Message (M × Workspace P) ModuleError Unit :=
  match phase with
  | .software => setUpSoftware capabilities
  | .pmu => setUpPmu capabilities

end DomainModule

end PerfStates
