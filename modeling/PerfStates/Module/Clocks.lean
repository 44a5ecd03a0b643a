import PerfStates.Module

namespace PerfStates

/-- The configured clock domains, and whether the last software half completed. -/
structure ClockModule where
  entries : List ClockDomain
  constructed : Bool
deriving DecidableEq, Repr

namespace ClockModule

def start (entries : List ClockDomain) : ClockModule := ⟨entries, false⟩

/-- Put the domains into the slots from `slot` on. -/
def place {P : Type} : Nat → List ClockDomain → Attempt Message (Workspace P) ModuleError Unit
  | _, [] => pure ()
  | slot, domain :: rest => do
    Attempt.log .debug (s!"clk domain {slot}: " ++ domain.name ++ " api=" ++ domain.id.describe
      ++ " kind=" ++ domain.kind.title)
    let workspace ← Attempt.get
    let clocks ← Attempt.mapError .group
      (Attempt.ofExcept (workspace.clocks.insert slot domain))
    Attempt.modify fun workspace => { workspace with clocks }
    place (slot + 1) rest

instance : DomainModule ClockModule where
  domain _ := .clkDomain
  setUpSoftware _ := do
    let (model, _) ← Attempt.get
    DomainModule.shared do
      Attempt.modify fun workspace => { workspace with clocks := workspace.clocks.clear }
      place 0 model.entries
    DomainModule.own (Attempt.modify fun model => { model with constructed := true })
  setUpPmu _ := do
    let (model, workspace) ← Attempt.get
    if model.constructed then
      DomainModule.shared (Workspace.send (.setGroup .clkDomain workspace.clocks.mask))
    else
      throw .notConstructed
  free := Action.modify fun model => { model with constructed := false }

end ClockModule

end PerfStates
