namespace PerfStates

/-- How far the bring-up has come. -/
inductive Lifecycle
  /-- Nothing has run yet. -/
  | uninitialized
  /-- The software phase completed. -/
  | softwareReady
  /-- Both phases completed. -/
  | pmuReady
  /-- A phase failed. -/
  | failed
  /-- The subsystem was taken down. -/
  | tornDown
deriving DecidableEq, Repr

namespace Lifecycle

def name : Lifecycle → String
  | uninitialized => "uninitialized"
  | softwareReady => "software-ready"
  | pmuReady => "pmu-ready"
  | failed => "failed"
  | tornDown => "torn-down"

/-- The name with each of its words capitalised and no hyphens. -/
def title : Lifecycle → String
  | uninitialized => "Uninitialized"
  | softwareReady => "SoftwareReady"
  | pmuReady => "PmuReady"
  | failed => "Failed"
  | tornDown => "TornDown"

end Lifecycle

end PerfStates
