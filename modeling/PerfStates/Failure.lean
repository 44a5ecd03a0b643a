import PerfStates.Lifecycle
import PerfStates.Module
import PerfStates.Table.Header

namespace PerfStates

/-- A failed operation of the subsystem. -/
inductive Failure
  | allocation (cause : GroupError)
  | malformedTable (cause : TableError)
  | slot (cause : GroupError)
  | notReady (cause : ChannelError)
  | setup (domain : Domain) (phase : Phase) (cause : ModuleError)
  | load (which : Load) (cause : ChannelError)
  | phaseOrder (expected found : Lifecycle)
  | missingDomain (domain : Domain)
  | lockPoisoned
deriving DecidableEq, Repr

namespace Failure

/-- A group error as a failure: storage that cannot be had, or a slot that cannot be filled. -/
def ofGroup : GroupError → Failure
  | .allocation capacity => allocation (.allocation capacity)
  | cause => slot cause

def message : Failure → String
  | allocation cause => "allocation failed: " ++ cause.message
  | malformedTable cause => "malformed performance table: " ++ cause.message
  | slot cause => "board object index error: " ++ cause.message
  | notReady cause => "PMU not ready to process pstate requests: " ++ cause.message
  | setup domain phase cause =>
    domain.name ++ " " ++ phase.name ++ " setup failed: " ++ cause.message
  | load which cause =>
    "failed to send " ++ which.name ++ " load command to PMU: " ++ cause.message
  | phaseOrder expected found =>
    "phase order violation: expected " ++ expected.name ++ ", found " ++ found.name
  | missingDomain domain => "no module registered for mandatory domain " ++ domain.name
  | lockPoisoned => "pstate registry lock poisoned"

def causes : Failure → List String
  | allocation cause => [cause.message]
  | malformedTable cause => [cause.message]
  | slot cause => [cause.message]
  | notReady cause => [cause.message]
  | setup _ _ cause => [cause.message]
  | load _ cause => [cause.message]
  | phaseOrder _ _ => []
  | missingDomain _ => []
  | lockPoisoned => []

end Failure

end PerfStates
