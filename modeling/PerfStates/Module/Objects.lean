import PerfStates.Module

namespace PerfStates

/-- An object of a model, made for one slot. -/
structure ModelObject where
  slot : Nat
deriving DecidableEq, Repr

namespace ModelObject

def tag : UInt8 := 1

instance : BoardObject ModelObject where
  tag _ := tag
  types _ := (TypeMask.of superType).insert tag

end ModelObject

/-- A domain of `count` objects, and their group once it is built. -/
structure ObjectDomain where
  domain : Domain
  count : Nat
  objects : Option (Group ModelObject)

namespace ObjectDomain

def start (domain : Domain) (count : Nat) : ObjectDomain := ⟨domain, count, none⟩

/-- The slots of the domain's group; frequency estimator models need the large shape. -/
def capacity (domain : Domain) : Nat :=
  if domain = .vfeVar ∨ domain = .vfeEqu then Group.largeCapacity else Group.smallCapacity

/-- A group of `capacity` slots with an object in each of the lowest `count`. -/
def build (capacity count : Nat) : Except GroupError (Group ModelObject) := do
  (List.range count).foldlM (fun group slot => group.insert slot ⟨slot⟩)
    (← Group.reserve capacity)

instance : DomainModule ObjectDomain where
  domain := ObjectDomain.domain
  setUpSoftware _ := DomainModule.own do
    let model ← Attempt.get
    let capacity := capacity model.domain
    if capacity < model.count then
      throw (.invalid s!"{model.count} objects exceed group capacity {capacity}")
    let objects ← Attempt.mapError .group (Attempt.ofExcept (build capacity model.count))
    Attempt.log .debug (model.domain.name ++ s!": {objects.size} objects")
    Attempt.modify fun model => { model with objects := some objects }
  setUpPmu _ := do
    let (model, _) ← Attempt.get
    match model.objects with
    | none => throw .notConstructed
    | some objects => DomainModule.shared (Workspace.send (.setGroup model.domain objects.mask))
  free := Action.modify fun model => { model with objects := none }

end ObjectDomain

end PerfStates
