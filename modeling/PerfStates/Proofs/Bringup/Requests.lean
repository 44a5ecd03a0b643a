import PerfStates.Proofs.Bringup.Runs

namespace PerfStates

/-- The phase that a setup or a load belongs to; a release belongs to none. -/
def Event.phase? : Event → Option Phase
  | .setUp phase _ => some phase
  | .load _ => some .pmu
  | .note _ => none
  | .free _ => none

/-- The phase that a call runs. -/
def Call.phase? : Call → Option Phase
  | .software => some .software
  | .pmu => some .pmu
  | .tearDown => none

/-- What a step of the second phase asks for. -/
def PmuStep.request : PmuStep → Event
  | bestEffort which => .setUp .pmu which
  | domain which => .setUp .pmu which
  | load which => .load which

namespace Event

/-- Two events in the order in which the phases allow them: no setup or load comes again, and
none of the software phase comes behind one of the second. -/
structure Ordered (earlier later : Event) : Prop where
  once : earlier = later → earlier.phase? = none
  forward : earlier.phase? = some .pmu → later.phase? ≠ some .software

theorem ordered_of_free {earlier later : Event} (free : later.phase? = none) :
    Ordered earlier later := by
  constructor
  · rintro rfl
    exact free
  · intro _ software
    rw [free] at software
    cases software

/-- Distinct requests of one phase come in any order, and releases behind them. -/
theorem pairwise_ordered {phase : Phase} {requests releases : List Event}
    (distinct : requests.Nodup) (own : ∀ event ∈ requests, event.phase? = some phase)
    (free : ∀ event ∈ releases, event.phase? = none) :
    (requests ++ releases).Pairwise Ordered := by
  rw [List.pairwise_append]
  refine ⟨?_, ?_, ?_⟩
  · apply List.Pairwise.imp_of_mem _ distinct
    intro earlier later first second different
    constructor
    · intro same
      exact absurd same different
    · intro pmu software
      cases (own earlier first).symm.trans pmu
      cases (own later second).symm.trans software
  · exact List.pairwise_of_forall_mem_list fun _ _ later member =>
      ordered_of_free (free later member)
  · intro earlier _ later member
    exact ordered_of_free (free later member)

end Event

namespace SoftwareStep

theorem phase?_of_mem_calls {step : SoftwareStep} {event : Event} (member : event ∈ step.calls) :
    event.phase? = some .software := by
  cases step with
  | table => cases member
  | domain domain =>
    rw [calls, List.mem_singleton] at member
    rw [member, Event.phase?]

theorem nodup_flatMap_calls {steps : List SoftwareStep} (distinct : steps.Nodup) :
    (steps.flatMap calls).Nodup := by
  rw [List.nodup_flatMap]
  constructor
  · intro step _
    cases step <;> simp [calls]
  · apply distinct.imp
    intro first second different event one two
    cases first with
    | table => cases one
    | domain domain =>
      cases second with
      | table => cases two
      | domain other =>
        rw [calls, List.mem_singleton] at one two
        cases one.symm.trans two
        exact different rfl

end SoftwareStep

namespace Support

variable {M P : Type} [DomainModule M]

theorem phase?_of_mem_forM_free (domains : List Domain) (support : Support M P) {event : Event}
    (member : event ∈ Event.calls
      ((domains.forM free : Action Event (Support M P) Unit) support).journal) :
    event.phase? = none := by
  induction domains generalizing support with
  | nil => cases member
  | cons domain rest ih =>
    have first : ((domain :: rest).forM free : Action Event (Support M P) Unit) =
        (free domain >>= fun _ => rest.forM free) := rfl
    rw [first, Action.bind_apply, Event.calls_append, calls_free] at member
    rcases List.mem_append.mp member with here | later
    · split at here
      · rw [List.mem_singleton.mp here, Event.phase?]
      · cases here
    · exact ih _ later

theorem phase?_of_mem_tearDown (support : Support M P) {event : Event}
    (member : event ∈ Event.calls (tearDown support).journal) : event.phase? = none := by
  have released : Event.calls (tearDown support).journal =
      Event.calls ((teardownOrder.forM free : Action Event (Support M P) Unit) support).journal := by
    simp only [tearDown, Action.bind_apply, Action.get_apply]
    cases (((teardownOrder.forM free : Action Event (Support M P) Unit) support).state).registry <;>
      simp [Registry.destroy]
  rw [released] at member
  exact phase?_of_mem_forM_free teardownOrder support member

variable [Channel P]

theorem StepFails.made_sublist {support after : Support M P} {step : SoftwareStep}
    {failure : Failure} {made : List Event} (fails : StepFails support step failure made after) :
    made.Sublist step.calls := by
  cases fails with
  | missing absent => exact List.nil_sublist _
  | setUp found ended => exact List.Sublist.refl _
  | table refused => exact List.Sublist.refl _

/-- A software phase makes software calls of the enabled steps, and releases behind them. -/
theorem SoftwareRun.made_sublist {support after : Support M P} {ended : Except Failure Unit}
    {trace : List Event} (run : SoftwareRun support ended trace after) :
    ∃ domains : List Domain,
      trace.Sublist ((Sequence.enabled support.capabilities Sequence.software).flatMap
        SoftwareStep.calls ++ domains.map .free) := by
  cases run with
  | notReady waited => exact ⟨[], List.nil_sublist _⟩
  | complete waited completes => exact ⟨[], List.sublist_append_left _ _⟩
  | @failed channel done rest step before after failure made waited steps completes fails =>
    refine ⟨SoftwareStep.unwound done, ?_⟩
    rw [steps, List.flatMap_append, List.flatMap_cons]
    apply List.Sublist.append_right
    apply List.Sublist.append_left
    exact fails.made_sublist.trans (List.sublist_append_left _ _)

theorem made_pmuStep (step : PmuStep) (support : Support M P) :
    ((pmuStep step).made support).Sublist [step.request] := by
  have setup (domain : Domain) :
      ((setUp .pmu domain).made support).Sublist [Event.setUp .pmu domain] := by
    rw [made_setUp]
    split
    · exact List.Sublist.refl _
    · exact List.nil_sublist _
  cases step with
  | bestEffort domain =>
    simp only [pmuStep, Attempt.made_bind, Attempt.ending_get, Attempt.made_get, List.nil_append]
    cases present : support.modules.contains domain with
    | false =>
      simp only [Bool.false_eq_true, ↓reduceIte, made_note]
      exact List.nil_sublist _
    | true =>
      simp only [↓reduceIte, Attempt.made_bind, Attempt.ending_outcome, Attempt.made_outcome]
      rcases (setUp .pmu domain).ending support with ⟨failure | ⟨⟨⟩⟩, after⟩
      · cases failure <;> simpa [PmuStep.request] using setup domain
      · simpa [PmuStep.request] using setup domain
  | domain domain =>
    simp only [pmuStep, Attempt.made_bind, ending_note, made_note, List.nil_append]
    exact setup domain
  | load which =>
    simp only [pmuStep, Attempt.made_bind, ending_note, made_note, Attempt.ending_record,
      Attempt.made_record, Attempt.made_mapError, made_onChannel, List.nil_append]
    rcases (Attempt.mapError (Failure.load which)
      (onChannel (M := M) (Channel.exchange (.load which)))).ending support with ⟨_ | _, after⟩
    · simp [PmuStep.request, Event.calls, Event.message?]
    · simp [PmuStep.request, Event.calls, Event.message?]

theorem made_pmuSteps (sequence : List (Gated PmuStep)) (support : Support M P) :
    ((pmuSteps sequence).made support).Sublist
      (sequence.map fun gated => gated.step.request) := by
  induction sequence generalizing support with
  | nil => exact List.nil_sublist _
  | cons gated rest ih =>
    rw [List.map_cons]
    cases on : gated.enabled support.capabilities with
    | false =>
      have passed : (pmuSteps (gated :: rest)).made support = (pmuSteps rest).made support := by
        simp [pmuSteps, on]
      rw [passed]
      exact (ih support).cons _
    | true =>
      have first := made_pmuStep gated.step support
      simp only [pmuSteps, Attempt.made_bind, Attempt.ending_get, Attempt.made_get,
        List.nil_append, on, ↓reduceIte]
      rcases (pmuStep gated.step).ending support with ⟨failure | value, after⟩
      · exact first.trans (List.sublist_append_left [gated.step.request] _)
      · exact first.append (ih after)

theorem made_pmuPhase (support : Support M P) :
    pmuPhase.made support =
      if support.lifecycle = .softwareReady then (pmuSteps Sequence.pmu).made support else [] := by
  simp only [pmuPhase, Attempt.made_bind, ending_expect, made_expect, List.nil_append]
  by_cases ready : support.lifecycle = .softwareReady
  · simp [ready, made_finish]
  · simp [ready]

/-- A call that makes anything but releases runs the phase that it is for, from the state that this
phase expects, and makes the requests of that phase at most once. -/
theorem made_perform (call : Call) (support : Support M P) :
    (∀ event ∈ Event.calls (perform call support).journal, event.phase? = none) ∨
      ∃ (phase : Phase) (requests : List Event) (domains : List Domain),
        call.phase? = some phase ∧ call.expected? = some support.lifecycle ∧
        requests.Nodup ∧ (∀ event ∈ requests, event.phase? = some phase) ∧
        (Event.calls (perform call support).journal).Sublist (requests ++ domains.map .free) := by
  cases call with
  | tearDown =>
    refine .inl ?_
    intro event member
    rw [perform, Action.bind_apply, Action.pure_apply, List.append_nil] at member
    exact phase?_of_mem_tearDown support member
  | software =>
    by_cases first : support.lifecycle = .uninitialized
    · obtain ⟨after, run, _⟩ := softwarePhase_outcome support first
      obtain ⟨domains, made⟩ := run.made_sublist
      refine .inr ⟨.software, _, domains, rfl, by rw [first]; rfl,
        SoftwareStep.nodup_flatMap_calls (Sequence.nodup_software _), ?_, made⟩
      intro event member
      obtain ⟨step, _, called⟩ := List.mem_flatMap.mp member
      exact SoftwareStep.phase?_of_mem_calls called
    · rw [perform_of_unexpected rfl first]
      exact .inl fun _ member => by cases member
  | pmu =>
    by_cases second : support.lifecycle = .softwareReady
    · have same : Event.calls (perform .pmu support).journal = pmuPhase.made support := rfl
      have distinct : (Sequence.pmu.map fun gated => gated.step.request).Nodup := by decide
      rw [same, made_pmuPhase, if_pos second]
      refine .inr ⟨.pmu, _, [], rfl, by rw [second]; rfl, distinct, ?_, ?_⟩
      · intro event member
        obtain ⟨gated, _, rfl⟩ := List.mem_map.mp member
        cases gated.step <;> rfl
      · rw [List.map_nil, List.append_nil]
        exact made_pmuSteps Sequence.pmu support
    · rw [perform_of_unexpected rfl second]
      exact .inl fun _ member => by cases member

theorem expected_of_mem_perform {call : Call} {support : Support M P} {event : Event}
    (member : event ∈ Event.calls (perform call support).journal) {phase : Phase}
    (own : event.phase? = some phase) :
    call.phase? = some phase ∧ call.expected? = some support.lifecycle := by
  rcases made_perform call support with
    released | ⟨other, requests, domains, runs, expected, _, requested, made⟩
  · cases (released event member).symm.trans own
  · rcases List.mem_append.mp (made.subset member) with request | release
    · obtain rfl : other = phase := Option.some.inj ((requested event request).symm.trans own)
      exact ⟨runs, expected⟩
    · obtain ⟨domain, _, rfl⟩ := List.mem_map.mp release
      cases own

theorem pairwise_perform (call : Call) (support : Support M P) :
    (Event.calls (perform call support).journal).Pairwise Event.Ordered := by
  rcases made_perform call support with
    released | ⟨phase, requests, domains, _, _, distinct, requested, made⟩
  · exact List.pairwise_of_forall_mem_list fun _ _ later member =>
      Event.ordered_of_free (released later member)
  · apply List.Pairwise.sublist made
    apply Event.pairwise_ordered distinct requested
    intro event release
    obtain ⟨domain, _, rfl⟩ := List.mem_map.mp release
    rfl

end Support

end PerfStates
