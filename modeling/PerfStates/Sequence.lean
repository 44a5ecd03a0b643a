import PerfStates.Capability
import PerfStates.Domain
import PerfStates.Pmu.Command

namespace PerfStates

/-- A step and the capabilities it depends on. -/
structure Gated (α : Type) where
  step : α
  needs : List Capability
deriving DecidableEq, Repr

/-- Whether the step runs on a device with the given capabilities. -/
def Gated.enabled {α : Type} (gated : Gated α) (capabilities : Capabilities) : Bool :=
  gated.needs.all capabilities.contains

inductive SoftwareStep
  /-- The software half of a domain. -/
  | domain (domain : Domain)
  /-- Decoding the performance table. -/
  | table
deriving DecidableEq, Repr

namespace SoftwareStep

def name : SoftwareStep → String
  | domain which => which.name
  | table => "pstate_table"

def describe : SoftwareStep → String
  | domain which => "Domain(" ++ which.title ++ ")"
  | table => "PstateTable"

end SoftwareStep

/-- A step of the phase that brings the models to the unit. -/
inductive PmuStep
  /-- The half of a domain that may be absent or fail. -/
  | bestEffort (domain : Domain)
  /-- The half of a domain that must succeed. -/
  | domain (domain : Domain)
  /-- A load request. -/
  | load (which : Load)
deriving DecidableEq, Repr

namespace PmuStep

def name : PmuStep → String
  | bestEffort which => "best_effort " ++ which.name
  | domain which => which.name
  | load which => "load " ++ which.name

def describe : PmuStep → String
  | bestEffort which => "BestEffort(" ++ which.title ++ ")"
  | domain which => "Domain(" ++ which.title ++ ")"
  | load which => "Load(" ++ which.title ++ ")"

end PmuStep

namespace Sequence

/-- The software phase. The clock domains come before the performance table, whose
clock entries refer to them by position. -/
def software : List (Gated SoftwareStep) :=
  [⟨.domain .clk, []⟩,
    ⟨.domain .perf, []⟩,
    ⟨.domain .therm, []⟩,
    ⟨.domain .pmgr, []⟩,
    ⟨.domain .voltRail, []⟩,
    ⟨.domain .voltDev, []⟩,
    ⟨.domain .voltPolicy, []⟩,
    ⟨.domain .clkVin, []⟩,
    ⟨.domain .clkFll, []⟩,
    ⟨.domain .thermDomain, []⟩,
    ⟨.domain .vfeVar, [.vfe]⟩,
    ⟨.domain .vfeEqu, [.vfe]⟩,
    ⟨.domain .clkDomain, []⟩,
    ⟨.domain .clkVfPoint, [.vfe, .vfPoint]⟩,
    ⟨.domain .clkProg, []⟩,
    ⟨.domain .clkFreqDomain, [.clkFreqDomain]⟩,
    ⟨.table, []⟩,
    ⟨.domain .pmgrDomain, [.pmgrDomain]⟩,
    ⟨.domain .clkFreqController, [.clkFreqController]⟩,
    ⟨.domain .lpwrPg, [.lpwrPg]⟩,
    ⟨.domain .changeSeq, [.changeSeq]⟩]

/-- The phase that brings the models to the unit. -/
def pmu : List (Gated PmuStep) :=
  [⟨.bestEffort .mclk, []⟩,
    ⟨.domain .voltRail, []⟩,
    ⟨.domain .voltDev, []⟩,
    ⟨.domain .voltPolicy, []⟩,
    ⟨.load .volt, []⟩,
    ⟨.domain .thermDomain, []⟩,
    ⟨.domain .vfeVar, [.vfe]⟩,
    ⟨.domain .vfeEqu, [.vfe]⟩,
    ⟨.domain .clkDomain, []⟩,
    ⟨.domain .clkProg, []⟩,
    ⟨.domain .clkVin, []⟩,
    ⟨.domain .clkFreqDomain, [.clkFreqDomain]⟩,
    ⟨.domain .clkFll, []⟩,
    ⟨.domain .clkFreqController, [.clkFreqController]⟩,
    ⟨.domain .clkVfPoint, [.vfe, .vfPoint]⟩,
    ⟨.load .clkVin, []⟩,
    ⟨.load .clkDomains, [.clkFreqDomain]⟩,
    ⟨.domain .pmgrDomain, [.pmgrDomain]⟩,
    ⟨.domain .changeSeq, [.changeSeq]⟩,
    ⟨.load .vfe, [.vfe]⟩]

/-- The steps of a sequence that run on a device with the given capabilities. -/
def enabled {α : Type} (capabilities : Capabilities) (sequence : List (Gated α)) : List α :=
  (sequence.filter fun gated => gated.enabled capabilities).map Gated.step

end Sequence

end PerfStates
