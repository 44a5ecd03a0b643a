import PerfStates.Module.Unit
import PerfStates.Module.Objects
import PerfStates.Module.Clocks
import PerfStates.Module.MemoryClock

namespace PerfStates

/-- A module of one of the four kinds that come with the library. -/
inductive BuiltinModule
  | unit (model : FoundationUnit)
  | objects (model : ObjectDomain)
  | clocks (model : ClockModule)
  | memoryClock (model : MemoryClock)

namespace BuiltinModule

def domain : BuiltinModule → Domain
  | unit model => DomainModule.domain model
  | objects model => DomainModule.domain model
  | clocks model => DomainModule.domain model
  | memoryClock model => DomainModule.domain model

/-- Run an attempt on the module inside and wrap it up again. -/
def inside {K P ε α : Type} (wrap : K → BuiltinModule) (model : K)
    (attempt : Attempt Message (K × Workspace P) ε α) :
    Attempt Message (BuiltinModule × Workspace P) ε α :=
  Attempt.onPart (fun both => (model, both.2)) (fun both _ => (wrap both.1, both.2)) attempt

def setUp {P : Type} [Channel P] (phase : Phase) (capabilities : Capabilities) :
    Attempt Message (BuiltinModule × Workspace P) ModuleError Unit := do
  match (← Attempt.get).1 with
  | unit model => inside unit model (DomainModule.setUp phase capabilities)
  | objects model => inside objects model (DomainModule.setUp phase capabilities)
  | clocks model => inside clocks model (DomainModule.setUp phase capabilities)
  | memoryClock model => inside memoryClock model (DomainModule.setUp phase capabilities)

def free : Action Message BuiltinModule Unit := do
  match ← Action.get with
  | unit model => Action.onPart (fun _ => model) (fun state _ => unit state) DomainModule.free
  | objects model =>
    Action.onPart (fun _ => model) (fun state _ => objects state) DomainModule.free
  | clocks model =>
    Action.onPart (fun _ => model) (fun state _ => clocks state) DomainModule.free
  | memoryClock model =>
    Action.onPart (fun _ => model) (fun state _ => memoryClock state) DomainModule.free

instance : DomainModule BuiltinModule where
  domain := domain
  setUpSoftware := setUp .software
  setUpPmu := setUp .pmu
  free := free

end BuiltinModule

end PerfStates
