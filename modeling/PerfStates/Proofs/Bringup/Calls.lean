import PerfStates.Proofs.Ending
import PerfStates.Support.Bringup

namespace PerfStates

/-- The calls and requests that a journal notes, in order. -/
def Event.calls (journal : List Event) : List Event :=
  journal.filter fun event => event.message?.isNone

namespace Event

@[simp] theorem calls_nil : calls [] = [] := rfl

@[simp] theorem calls_append (first second : List Event) :
    calls (first ++ second) = calls first ++ calls second := List.filter_append ..

@[simp] theorem calls_note_cons (message : Message) (journal : List Event) :
    calls (note message :: journal) = calls journal := rfl

@[simp] theorem calls_map_note (messages : List Message) : calls (messages.map note) = [] := by
  simp [calls, message?]

end Event

namespace Attempt

variable {σ τ ε ε' α β : Type}

/-- The calls and requests that an attempt makes. -/
def made (attempt : Attempt Event σ ε α) (state : σ) : List Event :=
  Event.calls (attempt.run state).journal

@[simp] theorem made_bind (attempt : Attempt Event σ ε α) (next : α → Attempt Event σ ε β)
    (state : σ) :
    (attempt >>= next).made state =
      match attempt.ending state with
      | (.ok value, after) => attempt.made state ++ (next value).made after
      | (.error _, _) => attempt.made state := by
  simp only [made, ending, bind_run]
  cases (attempt.run state).value <;> simp

@[simp] theorem made_pure (value : α) (state : σ) :
    (pure value : Attempt Event σ ε α).made state = [] := rfl

@[simp] theorem made_throw (failure : ε) (state : σ) :
    (throw failure : Attempt Event σ ε α).made state = [] := rfl

@[simp] theorem made_get (state : σ) : (get : Attempt Event σ ε σ).made state = [] := rfl

@[simp] theorem made_modify (change : σ → σ) (state : σ) :
    (modify change : Attempt Event σ ε Unit).made state = [] := rfl

@[simp] theorem made_ofExcept (known : Except ε α) (state : σ) :
    (ofExcept known : Attempt Event σ ε α).made state = [] := rfl

@[simp] theorem made_record (event : Event) (state : σ) :
    (record event : Attempt Event σ ε Unit).made state = Event.calls [event] := rfl

@[simp] theorem made_ofAction (action : Action Event σ α) (state : σ) :
    (ofAction action : Attempt Event σ ε α).made state = Event.calls (action state).journal := by
  simp [made]

theorem made_outcome (attempt : Attempt Event σ ε α) (state : σ) :
    (ofAction attempt.outcome : Attempt Event σ ε' (Except ε α)).made state =
      attempt.made state := by
  rw [made_ofAction, outcome_apply]
  rfl

@[simp] theorem made_mapError (restate : ε → ε') (attempt : Attempt Event σ ε α) (state : σ) :
    (mapError restate attempt).made state = attempt.made state := by
  simp [made]

@[simp] theorem made_relay (attempt : Attempt Message σ ε α) (state : σ) :
    (relay .note attempt : Attempt Event σ ε α).made state = [] := by
  simp [made]

end Attempt

/-- The state that a phase moves on to: `done` if it ended well. -/
def Lifecycle.reached (done : Lifecycle) : Except Failure Unit → Lifecycle
  | .ok () => done
  | .error _ => .failed

namespace Support

variable {M P : Type}

@[simp] theorem ending_note (level : Level) (text : String) (support : Support M P) :
    (note level text).ending support = (.ok (), support) := rfl

@[simp] theorem made_note (level : Level) (text : String) (support : Support M P) :
    (note level text : Step M P Unit).made support = [] := rfl

@[simp] theorem ending_skip (step : String) (support : Support M P) :
    (skip step).ending support = (.ok (), support) := rfl

@[simp] theorem made_skip (step : String) (support : Support M P) :
    (skip step : Step M P Unit).made support = [] := rfl

theorem ending_expect (expected : Lifecycle) (support : Support M P) :
    (expect expected).ending support =
      (if support.lifecycle = expected then .ok ()
        else .error (.phaseOrder expected support.lifecycle), support) := by
  simp only [expect, Attempt.ending_bind, Attempt.ending_get]
  by_cases same : support.lifecycle = expected <;> simp [same]

theorem made_expect (expected : Lifecycle) (support : Support M P) :
    (expect expected : Step M P Unit).made support = [] := by
  simp only [expect, Attempt.made_bind, Attempt.ending_get, Attempt.made_get]
  by_cases same : support.lifecycle = expected <;> simp [same]

/-- The subsystem with its channel in another state. -/
def withChannel (support : Support M P) (channel : P) : Support M P :=
  { support with workspace := { support.workspace with channel } }

@[simp] theorem channel_withChannel (support : Support M P) (channel : P) :
    (support.withChannel channel).workspace.channel = channel := rfl

theorem ending_onChannel {ε α : Type} (attempt : Attempt Message P ε α) (support : Support M P) :
    (onChannel attempt).ending support =
      ((attempt.ending support.workspace.channel).1,
        support.withChannel (attempt.ending support.workspace.channel).2) := rfl

theorem made_onChannel {ε α : Type} (attempt : Attempt Message P ε α) (support : Support M P) :
    (onChannel attempt).made support = [] := Attempt.made_relay _ _

theorem ending_finish (phase : Phase) (done : Lifecycle) (run : Step M P Unit)
    (support : Support M P) :
    (finish phase done run).ending support =
      ((run.ending support).1,
        { (run.ending support).2 with lifecycle := done.reached (run.ending support).1 }) := by
  simp only [finish, Attempt.ending_bind, Attempt.ending_outcome]
  rcases run.ending support with ⟨failure | ⟨⟨⟩⟩, after⟩ <;> rfl

theorem made_finish (phase : Phase) (done : Lifecycle) (run : Step M P Unit)
    (support : Support M P) : (finish phase done run).made support = run.made support := by
  simp only [finish, Attempt.made_bind, Attempt.ending_outcome, Attempt.made_outcome]
  rcases (run.ending support) with ⟨failure | ⟨⟨⟩⟩, after⟩ <;> simp

variable [DomainModule M]

/-- The modules after the release of a domain's module, if it has one. -/
def release (modules : ModuleTable M) (domain : Domain) : ModuleTable M :=
  match modules.get? domain with
  | none => modules
  | some model => modules.insert domain (DomainModule.free model).state

theorem get?_release (modules : ModuleTable M) (domain other : Domain) :
    (release modules domain).get? other =
      if other = domain then (modules.get? domain).map fun model => (DomainModule.free model).state
      else modules.get? other := by
  unfold release
  by_cases same : other = domain
  · subst same
    cases found : modules.get? other <;> simp [found]
  · cases found : modules.get? domain
    · simp [same]
    · simp [same, DomainMap.get?_insert_of_ne _ _ (Ne.symm same)]

theorem contains_release (modules : ModuleTable M) (domain other : Domain) :
    (release modules domain).contains other = modules.contains other := by
  rw [DomainMap.contains, get?_release, DomainMap.contains]
  by_cases same : other = domain <;> simp [same]

/-- Releasing distinct domains calls each of their modules once and leaves the others alone. -/
theorem get?_foldl_release {domains : List Domain} (distinct : domains.Nodup)
    (modules : ModuleTable M) (domain : Domain) :
    (domains.foldl release modules).get? domain =
      if domain ∈ domains then
        (modules.get? domain).map fun model => (DomainModule.free model).state
      else modules.get? domain := by
  induction domains generalizing modules with
  | nil => rfl
  | cons first rest ih =>
    obtain ⟨absent, distinct⟩ := List.nodup_cons.mp distinct
    rw [List.foldl_cons, ih distinct, get?_release]
    by_cases same : domain = first
    · subst same
      simp [absent]
    · simp [same]

/-- A release calls the module of its domain, if there is one, and puts it back. -/
theorem free_apply (domain : Domain) (support : Support M P) :
    free domain support =
      match support.modules.get? domain with
      | none => ⟨(), support, []⟩
      | some model =>
        ⟨(), { support with
          modules := support.modules.insert domain (DomainModule.free model).state },
          .free domain :: (DomainModule.free model).journal.map .note⟩ := by
  simp only [free, Action.bind_apply, Action.get_apply]
  cases support.modules.get? domain <;> rfl

theorem state_free (domain : Domain) (support : Support M P) :
    (free domain support).state = { support with modules := release support.modules domain } := by
  rw [free_apply, release]
  cases support.modules.get? domain <;> rfl

theorem calls_free (domain : Domain) (support : Support M P) :
    Event.calls (free domain support).journal =
      if support.modules.contains domain then [.free domain] else [] := by
  rw [free_apply, DomainMap.contains]
  cases support.modules.get? domain with
  | none => rfl
  | some model =>
    have quiet := Event.calls_map_note (DomainModule.free model).journal
    exact congrArg (Event.free domain :: ·) quiet

theorem state_unwind (domains : List Domain) (support : Support M P) :
    (unwind domains support).state =
      { support with modules := domains.foldl release support.modules } := by
  induction domains generalizing support with
  | nil => rfl
  | cons domain rest ih =>
    simp only [unwind, Action.bind_apply, Action.relay_apply, Action.log_apply, state_free, ih,
      List.foldl_cons]

theorem calls_unwind (domains : List Domain) (support : Support M P)
    (present : ∀ domain ∈ domains, support.modules.contains domain = true) :
    Event.calls (unwind domains support).journal = domains.map .free := by
  induction domains generalizing support with
  | nil => rfl
  | cons domain rest ih =>
    have later : ∀ other ∈ rest,
        ({ support with modules := release support.modules domain } :
          Support M P).modules.contains other = true := by
      intro other member
      rw [contains_release]
      exact present other (List.mem_cons_of_mem _ member)
    simp only [unwind, Action.bind_apply, Action.relay_apply, Action.log_apply, state_free,
      Event.calls_append, calls_free, List.map_cons, List.map_nil, Event.calls_note_cons,
      ih _ later, present domain List.mem_cons_self, ↓reduceIte,
      List.singleton_append]

theorem state_forM_free (domains : List Domain) (support : Support M P) :
    ((domains.forM free : Action Event (Support M P) Unit) support).state =
      { support with modules := domains.foldl release support.modules } := by
  induction domains generalizing support with
  | nil => rfl
  | cons domain rest ih =>
    have first : ((domain :: rest).forM free : Action Event (Support M P) Unit) =
        (free domain >>= fun _ => rest.forM free) := rfl
    rw [first, Action.bind_apply, ih, state_free]
    rfl

/-- Teardown releases its domains and takes the registry; all else stays as it was. -/
theorem state_tearDown (support : Support M P) :
    (tearDown support).state = { support with
      modules := teardownOrder.foldl release support.modules
      registry := none
      lifecycle := .tornDown } := by
  simp only [tearDown, Action.bind_apply, Action.get_apply, state_forM_free]
  cases support.registry <;> rfl

theorem lifecycle_tearDown (support : Support M P) :
    (tearDown support).state.lifecycle = .tornDown := by
  rw [state_tearDown]

variable [Channel P]

theorem ending_softwarePhase (support : Support M P) :
    softwarePhase.ending support =
      if support.lifecycle = .uninitialized then
        (finish .software .softwareReady runSoftware).ending support
      else (.error (.phaseOrder .uninitialized support.lifecycle), support) := by
  simp only [softwarePhase, Attempt.ending_bind, ending_expect, Attempt.ending_get, ending_note]
  by_cases fresh : support.lifecycle = .uninitialized <;> simp [fresh]

theorem ending_pmuPhase (support : Support M P) :
    pmuPhase.ending support =
      if support.lifecycle = .softwareReady then
        (finish .pmu .pmuReady (pmuSteps Sequence.pmu)).ending support
      else (.error (.phaseOrder .softwareReady support.lifecycle), support) := by
  simp only [pmuPhase, Attempt.ending_bind, ending_expect, ending_note]
  by_cases ready : support.lifecycle = .softwareReady <;> simp [ready]

theorem ending_pmuSteps_of_disabled {gated : Gated PmuStep} {support : Support M P}
    (off : gated.enabled support.capabilities = false) (rest : List (Gated PmuStep)) :
    (pmuSteps (gated :: rest)).ending support = (pmuSteps rest).ending support := by
  simp [pmuSteps, off]

theorem ending_pmuSteps_of_enabled {gated : Gated PmuStep} {support : Support M P}
    (on : gated.enabled support.capabilities = true) (rest : List (Gated PmuStep)) :
    (pmuSteps (gated :: rest)).ending support =
      match (pmuStep gated.step).ending support with
      | (.ok _, after) => (pmuSteps rest).ending after
      | (.error failure, after) => (.error failure, after) := by
  simp only [pmuSteps, Attempt.ending_bind, Attempt.ending_get, on, ↓reduceIte]
  rcases (pmuStep gated.step).ending support with ⟨failure | value, after⟩ <;> rfl

end Support

end PerfStates
