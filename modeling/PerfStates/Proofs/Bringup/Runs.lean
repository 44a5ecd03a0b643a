import PerfStates.Proofs.Bringup.Trace

namespace PerfStates

/-- A call on the subsystem. -/
inductive Call
  | software
  | pmu
  | tearDown
deriving DecidableEq, Repr

namespace Call

/-- The state that a phase runs from; a teardown runs from any. -/
def expected? : Call → Option Lifecycle
  | software => some .uninitialized
  | pmu => some .softwareReady
  | tearDown => none

/-- The state behind a call that ended so. A phase called in the wrong state changes nothing. -/
def next (ended : Except Failure Unit) : Call → Lifecycle → Lifecycle
  | software, .uninitialized => Lifecycle.softwareReady.reached ended
  | pmu, .softwareReady => Lifecycle.pmuReady.reached ended
  | tearDown, _ => .tornDown
  | _, found => found

theorem next_software_ne_uninitialized (ended : Except Failure Unit) (found : Lifecycle) :
    software.next ended found ≠ .uninitialized := by
  cases found <;> cases ended <;> simp [next, Lifecycle.reached]

theorem next_ne_uninitialized (call : Call) (ended : Except Failure Unit) {found : Lifecycle}
    (behind : found ≠ .uninitialized) : call.next ended found ≠ .uninitialized := by
  cases call with
  | software => exact next_software_ne_uninitialized ended found
  | pmu => cases found <;> cases ended <;> simp_all [next, Lifecycle.reached]
  | tearDown => simp [next]

theorem next_tornDown (call : Call) (ended : Except Failure Unit) :
    call.next ended .tornDown = .tornDown := by
  cases call <;> rfl

theorem next_ne_tornDown {call : Call} (phase : call ≠ .tearDown) (ended : Except Failure Unit)
    {found : Lifecycle} (up : found ≠ .tornDown) : call.next ended found ≠ .tornDown := by
  cases call with
  | tearDown => exact absurd rfl phase
  | software => cases found <;> cases ended <;> simp_all [next, Lifecycle.reached]
  | pmu => cases found <;> cases ended <;> simp_all [next, Lifecycle.reached]

/-- How a call moves the lifecycle. A phase that runs moves it on as it ends; called from any other
state than its own it is refused, and the lifecycle stays. -/
inductive Moves : Call → Except Failure Unit → Lifecycle → Lifecycle → Prop where
  | softwareReady : Moves .software (.ok ()) .uninitialized .softwareReady
  | softwareFailed (failure : Failure) : Moves .software (.error failure) .uninitialized .failed
  | pmuReady : Moves .pmu (.ok ()) .softwareReady .pmuReady
  | pmuFailed (failure : Failure) : Moves .pmu (.error failure) .softwareReady .failed
  | refused {call : Call} {expected found : Lifecycle} (asks : call.expected? = some expected)
      (other : found ≠ expected) : Moves call (.error (.phaseOrder expected found)) found found
  | tornDown (found : Lifecycle) : Moves .tearDown (.ok ()) found .tornDown

end Call

namespace Support

variable {M P : Type} [DomainModule M] [Channel P]

/-- Make a call, and tell how it ended. -/
def perform : Call → Action Event (Support M P) (Except Failure Unit)
  | .software => Attempt.outcome softwarePhase
  | .pmu => Attempt.outcome pmuPhase
  | .tearDown => do
    tearDown
    return .ok ()

/-- Make calls one after another, whatever comes of them. -/
def performAll : List Call → Action Event (Support M P) (List (Except Failure Unit))
  | [] => pure []
  | call :: rest => do
    let ended ← perform call
    return ended :: (← performAll rest)

theorem state_performAll_cons (call : Call) (rest : List Call) (support : Support M P) :
    (performAll (call :: rest) support).state =
      (performAll rest (perform call support).state).state := rfl

/-- Where a run of calls can have brought a subsystem from its start. -/
inductive Reached (start : Support M P) : Support M P → Prop where
  | fresh : Reached start start
  | softwareReady {support : Support M P} (ended : softwarePhase.ending start = (.ok (), support)) :
      Reached start support
  | softwareFailed {support : Support M P} {failure : Failure}
      (ended : softwarePhase.ending start = (.error failure, support)) : Reached start support
  | pmuReady {ready support : Support M P}
      (software : softwarePhase.ending start = (.ok (), ready))
      (ended : pmuPhase.ending ready = (.ok (), support)) : Reached start support
  | pmuFailed {ready support : Support M P} {failure : Failure}
      (software : softwarePhase.ending start = (.ok (), ready))
      (ended : pmuPhase.ending ready = (.error failure, support)) : Reached start support
  | tornDown {earlier : Support M P} (before : Reached start earlier) :
      Reached start (tearDown earlier).state

theorem lifecycle_softwarePhase {start support : Support M P} {ended : Except Failure Unit}
    (fresh : start.lifecycle = .uninitialized)
    (ending : softwarePhase.ending start = (ended, support)) :
    support.lifecycle = Lifecycle.softwareReady.reached ended := by
  obtain ⟨_, _, _, rfl⟩ := softwareRun_of_ending fresh ending
  rfl

theorem lifecycle_pmuPhase {ready support : Support M P} {ended : Except Failure Unit}
    (lifecycle : ready.lifecycle = .softwareReady)
    (ending : pmuPhase.ending ready = (ended, support)) :
    support.lifecycle = Lifecycle.pmuReady.reached ended := by
  rw [ending_pmuPhase, if_pos lifecycle, ending_finish] at ending
  cases ending
  rfl

theorem state_perform_software (support : Support M P) :
    (perform .software support).state = (softwarePhase.ending support).2 := rfl

theorem state_perform_pmu (support : Support M P) :
    (perform .pmu support).state = (pmuPhase.ending support).2 := rfl

theorem state_perform_tearDown (support : Support M P) :
    (perform .tearDown support).state = (tearDown support).state := by
  rw [perform, Action.bind_apply, Action.pure_apply]

/-- A phase called in the wrong state is refused and touches nothing at all. -/
theorem perform_of_unexpected {call : Call} {expected : Lifecycle}
    (asks : call.expected? = some expected) {support : Support M P}
    (other : support.lifecycle ≠ expected) :
    perform call support = ⟨.error (.phaseOrder expected support.lifecycle), support, []⟩ := by
  have refused : (expect expected : Step M P Unit).run support =
      ⟨.error (.phaseOrder expected support.lifecycle), support, []⟩ := by
    simp [expect, Attempt.bind_run, other]
  have stopped : ((expect expected : Step M P Unit).run support).value =
      .error (.phaseOrder expected support.lifecycle) := by rw [refused]
  cases call with
  | tearDown => cases asks
  | software =>
    cases asks
    rw [perform, Attempt.outcome_apply, softwarePhase, Attempt.bind_run_error stopped, refused]
  | pmu =>
    cases asks
    rw [perform, Attempt.outcome_apply, pmuPhase, Attempt.bind_run_error stopped, refused]

theorem lifecycle_perform (call : Call) (support : Support M P) :
    (perform call support).state.lifecycle =
      call.next (perform call support).value support.lifecycle := by
  cases call with
  | tearDown =>
    rw [state_perform_tearDown, lifecycle_tearDown]
    rfl
  | software =>
    by_cases first : support.lifecycle = .uninitialized
    · have ending : softwarePhase.ending support =
          ((perform .software support).value, (perform .software support).state) := rfl
      rw [lifecycle_softwarePhase first ending, first]
      rfl
    · rw [perform_of_unexpected rfl first]
      cases found : support.lifecycle <;> first | rfl | exact absurd found first
  | pmu =>
    by_cases second : support.lifecycle = .softwareReady
    · have ending : pmuPhase.ending support =
          ((perform .pmu support).value, (perform .pmu support).state) := rfl
      rw [lifecycle_pmuPhase second ending, second]
      rfl
    · rw [perform_of_unexpected rfl second]
      cases found : support.lifecycle <;> first | rfl | exact absurd found second

theorem moves_perform (call : Call) (support : Support M P) :
    call.Moves (perform call support).value support.lifecycle
      (perform call support).state.lifecycle := by
  have moved := lifecycle_perform call support
  cases call with
  | tearDown =>
    rw [moved]
    exact .tornDown support.lifecycle
  | software =>
    by_cases first : support.lifecycle = .uninitialized
    · rw [moved, first]
      cases (perform .software support).value with
      | ok done => exact .softwareReady
      | error failure => exact .softwareFailed failure
    · rw [perform_of_unexpected rfl first]
      exact .refused rfl first
  | pmu =>
    by_cases second : support.lifecycle = .softwareReady
    · rw [moved, second]
      cases (perform .pmu support).value with
      | ok done => exact .pmuReady
      | error failure => exact .pmuFailed failure
    · rw [perform_of_unexpected rfl second]
      exact .refused rfl second

/-- What the lifecycle alone tells of a reached subsystem: it is the start, it is what a complete
software phase left, or it has no registry any more. -/
theorem Reached.of_lifecycle {start support : Support M P}
    (fresh : start.lifecycle = .uninitialized) (reached : Reached start support) :
    match support.lifecycle with
    | .uninitialized => support = start
    | .softwareReady => softwarePhase.ending start = (.ok (), support)
    | .tornDown => support.registry = none
    | _ => True := by
  cases reached with
  | fresh => rw [fresh]
  | softwareReady ended =>
    rw [lifecycle_softwarePhase fresh ended]
    exact ended
  | softwareFailed ended =>
    rw [lifecycle_softwarePhase fresh ended]
    trivial
  | pmuReady software ended =>
    rw [lifecycle_pmuPhase (lifecycle_softwarePhase fresh software) ended]
    trivial
  | pmuFailed software ended =>
    rw [lifecycle_pmuPhase (lifecycle_softwarePhase fresh software) ended]
    trivial
  | tornDown before =>
    rw [lifecycle_tearDown]
    rw [state_tearDown]

theorem Reached.eq_start {start support : Support M P} (fresh : start.lifecycle = .uninitialized)
    (reached : Reached start support) (first : support.lifecycle = .uninitialized) :
    support = start := by
  have known := reached.of_lifecycle fresh
  rw [first] at known
  exact known

theorem Reached.softwarePhase_eq {start support : Support M P}
    (fresh : start.lifecycle = .uninitialized) (reached : Reached start support)
    (second : support.lifecycle = .softwareReady) :
    softwarePhase.ending start = (.ok (), support) := by
  have known := reached.of_lifecycle fresh
  rw [second] at known
  exact known

theorem Reached.registry_eq_none {start support : Support M P}
    (fresh : start.lifecycle = .uninitialized) (reached : Reached start support)
    (down : support.lifecycle = .tornDown) : support.registry = none := by
  have known := reached.of_lifecycle fresh
  rw [down] at known
  exact known

/-- What one more call makes of a reached subsystem. -/
theorem Reached.perform {start support : Support M P} (fresh : start.lifecycle = .uninitialized)
    (reached : Reached start support) (call : Call) :
    Reached start (perform call support).state := by
  cases call with
  | tearDown =>
    rw [state_perform_tearDown]
    exact .tornDown reached
  | software =>
    by_cases first : support.lifecycle = .uninitialized
    · obtain rfl := reached.eq_start fresh first
      rcases ended : softwarePhase.ending support with ⟨failure | ⟨⟨⟩⟩, after⟩
      · rw [state_perform_software, ended]
        exact .softwareFailed ended
      · rw [state_perform_software, ended]
        exact .softwareReady ended
    · rw [state_perform_software, ending_softwarePhase, if_neg first]
      exact reached
  | pmu =>
    by_cases second : support.lifecycle = .softwareReady
    · have software := reached.softwarePhase_eq fresh second
      rcases ended : pmuPhase.ending support with ⟨failure | ⟨⟨⟩⟩, after⟩
      · rw [state_perform_pmu, ended]
        exact .pmuFailed software ended
      · rw [state_perform_pmu, ended]
        exact .pmuReady software ended
    · rw [state_perform_pmu, ending_pmuPhase, if_neg second]
      exact reached

theorem reached_performAll {start support : Support M P} (fresh : start.lifecycle = .uninitialized)
    (reached : Reached start support) (calls : List Call) :
    Reached start (performAll calls support).state := by
  induction calls generalizing support with
  | nil => exact reached
  | cons call rest ih =>
    rw [state_performAll_cons]
    exact ih (reached.perform fresh call)

/-- What every call keeps of the lifecycle holds behind a run, if it held before or one of the
calls establishes it. -/
theorem lifecycle_performAll (holds : Lifecycle → Prop) {calls : List Call}
    (kept : ∀ call ∈ calls, ∀ ended found, holds found → holds (call.next ended found))
    {support : Support M P}
    (reason : holds support.lifecycle ∨
      ∃ call ∈ calls, ∀ ended found, holds (call.next ended found)) :
    holds (performAll calls support).state.lifecycle := by
  induction calls generalizing support with
  | nil =>
    rcases reason with held | ⟨call, listed, _⟩
    · exact held
    · cases listed
  | cons call rest ih =>
    rw [state_performAll_cons]
    apply ih fun other listed => kept other (List.mem_cons_of_mem call listed)
    rw [lifecycle_perform]
    rcases reason with held | ⟨other, listed, establishes⟩
    · exact .inl (kept call List.mem_cons_self _ _ held)
    · rcases List.mem_cons.mp listed with rfl | later
      · exact .inl (establishes _ _)
      · exact .inr ⟨other, later, establishes⟩

theorem lifecycle_ne_uninitialized {calls : List Call} (called : .software ∈ calls)
    (support : Support M P) : (performAll calls support).state.lifecycle ≠ .uninitialized := by
  apply lifecycle_performAll fun lifecycle => lifecycle ≠ .uninitialized
  · intro call _ ended found behind
    exact call.next_ne_uninitialized ended behind
  · exact .inr ⟨.software, called, Call.next_software_ne_uninitialized⟩

theorem lifecycle_eq_tornDown {calls : List Call} (called : .tearDown ∈ calls)
    (support : Support M P) : (performAll calls support).state.lifecycle = .tornDown := by
  apply lifecycle_performAll fun lifecycle => lifecycle = .tornDown
  · rintro call _ ended _ rfl
    exact call.next_tornDown ended
  · exact .inr ⟨.tearDown, called, fun _ _ => rfl⟩

theorem lifecycle_ne_tornDown {calls : List Call} (phases : .tearDown ∉ calls)
    {support : Support M P} (up : support.lifecycle ≠ .tornDown) :
    (performAll calls support).state.lifecycle ≠ .tornDown := by
  apply lifecycle_performAll fun lifecycle => lifecycle ≠ .tornDown
  · intro call listed ended found before
    apply Call.next_ne_tornDown _ ended before
    rintro rfl
    exact phases listed
  · exact .inl up

end Support

end PerfStates
