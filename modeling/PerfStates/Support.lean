import PerfStates.Module.Table
import PerfStates.Registry.Decode
import PerfStates.Sequence

namespace PerfStates

/-- A subsystem with modules `M` and a channel `P` to the power-management unit. -/
structure Support (M P : Type) where
  capabilities : Capabilities
  modules : ModuleTable M
  workspace : Workspace P
  registry : Option Registry
  /-- The performance table of the firmware image, if it has one. -/
  image : Option (List UInt8)
  lifecycle : Lifecycle

namespace Support

variable {M P : Type}

/-- A subsystem on which nothing has run. -/
def start (capabilities : Capabilities) (modules : ModuleTable M) (channel : P)
    (image : Option (List UInt8)) : Support M P where
  capabilities := capabilities
  modules := modules
  workspace := Workspace.start channel
  registry := none
  image := image
  lifecycle := .uninitialized

/-- A subsystem with the modules that a configuration calls for. -/
def ofConfig (config : Config) (channel : P) (image : Option (List UInt8)) :
    Support BuiltinModule P :=
  start config.capabilities (ModuleTable.builtin config) channel image

def describe (support : Support M P) : String :=
  "PstateSupport \x7b caps: " ++ support.capabilities.describe ++ ", domains: "
    ++ support.modules.describe ++ ", state: " ++ support.lifecycle.title ++ ", .. \x7d"

/-- The first state with the given ordinal; none before the table is decoded. -/
def findPstate (support : Support M P) (ordinal : Nat) : Except Failure (Option Pstate) :=
  match support.registry with
  | some registry => registry.find ordinal
  | none => .ok none

/-- The limits of `clock` at the state with the given ordinal. -/
def clockLimits (support : Support M P) (ordinal : Nat) (clock : ClockId) :
    Except Failure (Option ClockLimits) :=
  match support.registry with
  | some registry => registry.limits ordinal clock
  | none => .ok none

/-- The limits of the clock domain called `name` at the state with the given ordinal. -/
def clockLimitsByName (support : Support M P) (ordinal : Nat) (name : String) :
    Except Failure (Option ClockLimits) :=
  match ClockDomain.findByName? support.workspace.clocks name with
  | some (_, clock) => support.clockLimits ordinal clock
  | none => .ok none

end Support

end PerfStates
