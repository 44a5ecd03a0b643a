import PerfStates.Module

namespace PerfStates

/-- A foundational unit and whether its state is reserved. -/
structure FoundationUnit where
  domain : Domain
  reserved : Bool
deriving DecidableEq, Repr

namespace FoundationUnit

def start (domain : Domain) : FoundationUnit := ⟨domain, false⟩

instance : DomainModule FoundationUnit where
  domain := FoundationUnit.domain
  setUpSoftware _ := DomainModule.own do
    Attempt.modify fun unit => { unit with reserved := true }
    Attempt.log .debug ((← Attempt.get).domain.name ++ ": unit state reserved")
  setUpPmu _ := pure ()
  free := do
    let unit ← Action.get
    if unit.reserved then
      Action.modify fun unit => { unit with reserved := false }
      Action.log .debug (unit.domain.name ++ ": unit state freed")

end FoundationUnit

end PerfStates
