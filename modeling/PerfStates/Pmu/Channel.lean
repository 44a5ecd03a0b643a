import PerfStates.Journal
import PerfStates.Pmu.Command

namespace PerfStates

/-- Why the unit did not do what was asked. -/
inductive ChannelError
  | notReady
  | rejected (status : Option UInt32)
  | timedOut
deriving DecidableEq, Repr

def ChannelError.message : ChannelError → String
  | notReady => "PMU not ready"
  | rejected none => "PMU rejected request, status = none"
  | rejected (some status) => "PMU rejected request, status = " ++ Text.hexWord 8 status.toNat
  | timedOut => "PMU acknowledgement timed out"

/-- The unit's answer to a request it accepted. -/
structure Acknowledgement where
  status : UInt32
deriving DecidableEq, Repr

/-- A way to talk to the unit. -/
class Channel (P : Type) where
  /-- Wait until the unit takes requests. -/
  waitReady : Attempt Message P ChannelError Unit
  /-- Send a command and wait for its answer. -/
  exchange : Command → Attempt Message P ChannelError Acknowledgement

/-- A stand-in for the unit that remembers every command and rejects those whose
target is listed, with the status listed first for it. -/
structure Loopback where
  ready : Bool
  failures : List (Target × UInt32)
  sent : List Command
deriving DecidableEq, Repr

namespace Loopback

def accepting : Loopback := ⟨true, [], []⟩

/-- The status with which commands to `target` are rejected, if they are. -/
def rejection? (loopback : Loopback) (target : Target) : Option UInt32 :=
  loopback.failures.lookup target

instance : Channel Loopback where
  waitReady := do
    if (← Attempt.get).ready then pure () else throw .notReady
  exchange command := do
    Attempt.log .trace ("pmu <- " ++ command.describe)
    Attempt.modify fun loopback => { loopback with sent := loopback.sent ++ [command] }
    match (← Attempt.get).rejection? command.target with
    | some status => throw (.rejected (some status))
    | none => pure ⟨0⟩

end Loopback

end PerfStates
