import PerfStates.Support

/-! Bringing the subsystem up and down. The software phase builds the models and
decodes the performance table; when one of its steps fails, the foundations set up
so far are released, newest first. The second phase brings the models to the
power-management unit and takes nothing back. -/

namespace PerfStates

/-- What the journal of a bring-up notes: messages, and the calls and requests that
the bring-up itself makes, each before its outcome is known. -/
inductive Event
  | note (message : Message)
  /-- A setup call on the module of a domain. -/
  | setUp (phase : Phase) (domain : Domain)
  /-- A release call on the module of a domain. -/
  | free (domain : Domain)
  /-- A load request of the bring-up itself. -/
  | load (which : Load)
deriving DecidableEq, Repr

def Event.message? : Event → Option Message
  | note message => some message
  | _ => none

namespace Support

variable {M P : Type}

/-- A step of the bring-up. -/
abbrev Step (M P α : Type) : Type := Attempt Event (Support M P) Failure α

def note (level : Level) (text : String) : Step M P Unit :=
  Attempt.relay .note (Attempt.log level text)

def onChannel {ε α : Type} (attempt : Attempt Message P ε α) :
    Attempt Event (Support M P) ε α :=
  Attempt.relay .note <|
    Attempt.onPart (fun support => support.workspace.channel)
      (fun channel support => { support with workspace := { support.workspace with channel } })
      attempt

def expect (expected : Lifecycle) : Step M P Unit := do
  let found := (← Attempt.get).lifecycle
  if found ≠ expected then throw (.phaseOrder expected found)

/-- Note that a step does not run for want of capabilities. -/
def skip (step : String) : Step M P Unit := note .debug ("pstate: skip " ++ step)

/-- The room for foundations that an unwinding would release. -/
def foundationRoom : Nat := 4

/-- The foundations set up once a step is done, newest first. One that is there already,
or finds no room, is not added. -/
def foundationsAfter (foundations : List Domain) : SoftwareStep → List Domain
  | .domain domain =>
    if domain.isFoundation && !foundations.contains domain
        && foundations.length < foundationRoom then domain :: foundations
    else foundations
  | .table => foundations

variable [DomainModule M]

/-- Release the module of `domain`, if there is one. -/
def free (domain : Domain) : Action Event (Support M P) Unit := do
  match (← Action.get).modules.get? domain with
  | none => pure ()
  | some model =>
    Action.record (.free domain)
    Action.relay .note <|
      Action.onPart (fun _ => model)
        (fun model support => { support with modules := support.modules.insert domain model })
        DomainModule.free

def unwind : List Domain → Action Event (Support M P) Unit
  | [] => pure ()
  | domain :: rest => do
    Action.relay .note (Action.log .warn ("pstate: unwinding " ++ domain.name))
    free domain
    unwind rest

def teardownOrder : List Domain := [.pmgr, .therm, .perf, .clk, .mclk]

/-- Release the units and the memory clock and take the registry down. -/
def tearDown : Action Event (Support M P) Unit := do
  teardownOrder.forM free
  if let some registry := (← Action.get).registry then
    Action.relay .note registry.destroy
  Action.modify fun support => { support with registry := none, lifecycle := .tornDown }
  Action.relay .note (Action.log .info "pstate: torn down")

variable [Channel P]

/-- Call the module of `domain` for a phase. -/
def setUp (phase : Phase) (domain : Domain) : Step M P Unit := do
  let support ← Attempt.get
  let model ← Attempt.ofExcept (support.modules.require domain)
  Attempt.record (.setUp phase domain)
  Attempt.mapError (.setup domain phase) <| Attempt.relay .note <|
    Attempt.onPart (fun support => (model, support.workspace))
      (fun both support =>
        { support with modules := support.modules.insert domain both.1, workspace := both.2 })
      (DomainModule.setUp phase support.capabilities)

def softwareStep : SoftwareStep → Step M P Unit
  | .domain domain => do
    note .debug ("pstate: " ++ domain.name ++ " software setup")
    setUp .software domain
  | .table => do
    note .debug "pstate: decode performance table"
    let support ← Attempt.get
    let registry ← Attempt.relay .note
      (Registry.ofFirmware support.workspace.clocks support.image)
    Attempt.modify fun support => { support with registry := some registry }

/-- The steps of the software phase from some point on, with the foundations set up
before it, newest first. A failed step unwinds them. -/
def softwareSteps (foundations : List Domain) : List (Gated SoftwareStep) → Step M P Unit
  | [] => pure ()
  | gated :: rest => do
    if gated.enabled (← Attempt.get).capabilities then
      match ← Attempt.ofAction (Attempt.outcome (softwareStep gated.step)) with
      | .ok () => softwareSteps (foundationsAfter foundations gated.step) rest
      | .error failure =>
        Attempt.ofAction (unwind foundations)
        throw failure
    else
      skip gated.step.describe
      softwareSteps foundations rest

def runSoftware : Step M P Unit := do
  Attempt.mapError .notReady (onChannel Channel.waitReady)
  softwareSteps [] Sequence.software

/-- A step of the second phase. -/
def pmuStep : PmuStep → Step M P Unit
  | .bestEffort domain => do
    if (← Attempt.get).modules.contains domain then
      match ← Attempt.ofAction (Attempt.outcome (setUp .pmu domain)) with
      | .error (.setup _ _ cause) =>
        note .warn ("pstate: " ++ domain.name ++ " pmu setup failed, continuing: "
          ++ cause.message)
      | _ => pure ()
    else
      note .debug ("pstate: " ++ domain.name ++ " not present")
  | .domain domain => do
    note .debug ("pstate: " ++ domain.name ++ " pmu setup")
    setUp .pmu domain
  | .load which => do
    note .debug ("pstate: load " ++ which.name)
    Attempt.record (.load which)
    let _ ← Attempt.mapError (.load which) (onChannel (Channel.exchange (.load which)))

/-- The steps of the second phase from some point on. -/
def pmuSteps : List (Gated PmuStep) → Step M P Unit
  | [] => pure ()
  | gated :: rest => do
    if gated.enabled (← Attempt.get).capabilities then
      pmuStep gated.step
    else
      skip gated.step.describe
    pmuSteps rest

/-- Run a phase to its end and move on to the state that its ending calls for. -/
def finish (phase : Phase) (done : Lifecycle) (run : Step M P Unit) : Step M P Unit := do
  match ← Attempt.ofAction (Attempt.outcome run) with
  | .ok () =>
    Attempt.modify fun support => { support with lifecycle := done }
    note .info ("pstate: " ++ phase.name ++ " phase complete")
  | .error failure =>
    Attempt.modify fun support => { support with lifecycle := .failed }
    note .error ("pstate: " ++ phase.name ++ " phase failed: " ++ failure.message)
    throw failure

/-- Build the models and decode the performance table. -/
def softwarePhase : Step M P Unit := do
  expect .uninitialized
  note .info
    ("pstate: software phase start (caps " ++ (← Attempt.get).capabilities.describe ++ ")")
  finish .software .softwareReady runSoftware

/-- Bring the models to the unit. -/
def pmuPhase : Step M P Unit := do
  expect .softwareReady
  note .info "pstate: pmu phase start"
  finish .pmu .pmuReady (pmuSteps Sequence.pmu)

end Support

end PerfStates
