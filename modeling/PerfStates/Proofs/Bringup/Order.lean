import PerfStates.Proofs.Bringup.Requests

/-! The order of the phases over a whole run of calls. The state that a run has come to tells
which phases it may still run: none of them twice, the software phase first, and nothing after
a teardown. -/

namespace PerfStates

/-- Whether a call on a subsystem in this state, or on what becomes of it, may run a phase. -/
def Lifecycle.admits : Lifecycle → Phase → Bool
  | .uninitialized, _ => true
  | .softwareReady, .pmu => true
  | _, _ => false

namespace Call

theorem admits_of_next (call : Call) (ended : Except Failure Unit) {found : Lifecycle}
    {phase : Phase} (admitted : (call.next ended found).admits phase = true) :
    found.admits phase = true := by
  cases found with
  | uninitialized => rfl
  | softwareReady =>
    cases phase with
    | pmu => rfl
    | software => cases call <;> cases ended <;> cases admitted
  | pmuReady => cases call <;> cases admitted
  | failed => cases call <;> cases admitted
  | tornDown => cases call <;> cases admitted

theorem next_admits_after {call : Call} {found : Lifecycle} {phase later : Phase}
    (runs : call.phase? = some phase) (expected : call.expected? = some found)
    {ended : Except Failure Unit} (admitted : (call.next ended found).admits later = true) :
    phase = .software ∧ later = .pmu := by
  cases call with
  | tearDown => cases runs
  | software =>
    cases runs
    cases expected
    cases later with
    | pmu => exact ⟨rfl, rfl⟩
    | software => cases ended <;> cases admitted
  | pmu =>
    cases runs
    cases expected
    cases ended <;> cases admitted

theorem ready_of_next {call : Call} {ended : Except Failure Unit} {found : Lifecycle}
    (ready : call.next ended found = .softwareReady) :
    (found = .softwareReady ∧ call ≠ .tearDown) ∨ (call = .software ∧ ended = .ok ()) := by
  cases call with
  | tearDown => cases ready
  | software =>
    cases found with
    | uninitialized =>
      cases ended with
      | ok done => exact .inr ⟨rfl, rfl⟩
      | error failure => cases ready
    | softwareReady => exact .inl ⟨rfl, by decide⟩
    | pmuReady => cases ready
    | failed => cases ready
    | tornDown => cases ready
  | pmu =>
    cases found with
    | softwareReady => cases ended <;> cases ready
    | uninitialized => cases ready
    | pmuReady => cases ready
    | failed => cases ready
    | tornDown => cases ready

end Call

/-- Events in order hold no setup and no load twice. -/
theorem Event.count_le_one {events : List Event} (ordered : events.Pairwise Event.Ordered)
    {event : Event} {phase : Phase} (own : event.phase? = some phase) :
    events.count event ≤ 1 := by
  induction ordered with
  | nil => exact Nat.zero_le _
  | @cons first rest before _ ih =>
    by_cases same : first = event
    · have absent : event ∉ rest := by
        intro again
        have free := (before event again).once same
        rw [same, own] at free
        cases free
      have none : rest.count event = 0 := List.count_eq_zero_of_not_mem absent
      rw [same, List.count_cons_self]
      omega
    · rw [List.count_cons_of_ne same]
      exact ih

/-- A call of a run: how it ended, and the setups, releases and loads it made. -/
structure Performed where
  call : Call
  ended : Except Failure Unit
  made : List Event

namespace Support

variable {M P : Type} [DomainModule M] [Channel P]

/-- The calls of a run one by one. -/
def history : List Call → Support M P → List Performed
  | [], _ => []
  | call :: rest, support =>
    let outcome := perform call support
    ⟨call, outcome.value, Event.calls outcome.journal⟩ :: history rest outcome.state

theorem calls_performAll_cons (call : Call) (rest : List Call) (support : Support M P) :
    Event.calls (performAll (call :: rest) support).journal =
      Event.calls (perform call support).journal ++
        Event.calls (performAll rest (perform call support).state).journal := by
  rw [performAll, Action.bind_apply, Action.bind_apply, Action.pure_apply, List.append_nil,
    Event.calls_append]

theorem history_eq (calls : List Call) (support : Support M P) :
    (history calls support).map Performed.call = calls ∧
      (history calls support).map Performed.ended = (performAll calls support).value ∧
      (history calls support).flatMap Performed.made =
        Event.calls (performAll calls support).journal := by
  induction calls generalizing support with
  | nil => exact ⟨rfl, rfl, rfl⟩
  | cons call rest ih =>
    obtain ⟨called, ended, made⟩ := ih (perform call support).state
    refine ⟨?_, ?_, ?_⟩
    · rw [history, List.map_cons, called]
    · rw [history, List.map_cons, ended]
      rfl
    · rw [history, List.flatMap_cons, made, calls_performAll_cons]

/-- A run makes setups and loads only of phases that its first state admits. -/
theorem admits_of_mem_performAll {calls : List Call} {support : Support M P} {event : Event}
    (member : event ∈ Event.calls (performAll calls support).journal) {phase : Phase}
    (own : event.phase? = some phase) : support.lifecycle.admits phase = true := by
  induction calls generalizing support with
  | nil => cases member
  | cons call rest ih =>
    rw [calls_performAll_cons] at member
    rcases List.mem_append.mp member with now | later
    · obtain ⟨runs, expected⟩ := expected_of_mem_perform now own
      cases call with
      | tearDown => cases runs
      | software =>
        rw [← Option.some.inj expected]
        rfl
      | pmu =>
        cases runs
        rw [← Option.some.inj expected]
        rfl
    · have admitted := ih later
      rw [lifecycle_perform] at admitted
      exact call.admits_of_next _ admitted

theorem pairwise_performAll (calls : List Call) (support : Support M P) :
    (Event.calls (performAll calls support).journal).Pairwise Event.Ordered := by
  induction calls generalizing support with
  | nil => exact List.Pairwise.nil
  | cons call rest ih =>
    rw [calls_performAll_cons, List.pairwise_append]
    refine ⟨pairwise_perform call support, ih _, ?_⟩
    intro earlier now later behind
    cases after : later.phase? with
    | none => exact Event.ordered_of_free after
    | some second =>
      -- What comes behind this call is of a phase that the state behind it still admits.
      have admitted := admits_of_mem_performAll behind after
      rw [lifecycle_perform] at admitted
      constructor
      · rintro rfl
        obtain ⟨runs, expected⟩ := expected_of_mem_perform now after
        obtain ⟨rfl, same⟩ := Call.next_admits_after runs expected admitted
        cases same
      · intro pmu
        obtain ⟨runs, expected⟩ := expected_of_mem_perform now pmu
        cases (Call.next_admits_after runs expected admitted).1

theorem mem_of_mem_history {calls : List Call} {support : Support M P} {entry : Performed}
    (listed : entry ∈ history calls support) {event : Event} (member : event ∈ entry.made) :
    event ∈ Event.calls (performAll calls support).journal := by
  rw [← (history_eq calls support).2.2]
  exact List.mem_flatMap.mpr ⟨entry, listed, member⟩

/-- After a teardown nothing but releases is made. -/
theorem pairwise_history (calls : List Call) (support : Support M P) :
    (history calls support).Pairwise fun earlier later =>
      earlier.call = .tearDown → ∀ event ∈ later.made, event.phase? = none := by
  induction calls generalizing support with
  | nil => exact List.Pairwise.nil
  | cons call rest ih =>
    rw [history, List.pairwise_cons]
    refine ⟨?_, ih _⟩
    intro later listed down event member
    obtain rfl : call = .tearDown := down
    cases own : event.phase? with
    | none => rfl
    | some phase =>
      have admitted := admits_of_mem_performAll (mem_of_mem_history listed member) own
      rw [lifecycle_perform] at admitted
      cases admitted

/-- A setup or a load of the second phase has a software phase before it that ended well, with no
teardown between the two, unless the run began behind such a phase. -/
theorem succeeded_before {calls : List Call} {support : Support M P}
    {before after : List Performed} {entry : Performed}
    (split : history calls support = before ++ entry :: after) {event : Event}
    (member : event ∈ entry.made) (second : event.phase? = some .pmu) :
    (support.lifecycle = .softwareReady ∧ ∀ other ∈ before, other.call ≠ .tearDown) ∨
      ∃ first success between, before = first ++ success :: between ∧
        success.call = .software ∧ success.ended = .ok () ∧
        ∀ other ∈ between, other.call ≠ .tearDown := by
  induction calls generalizing support before with
  | nil => simp [history] at split
  | cons call rest ih =>
    rw [history] at split
    cases before with
    | nil =>
      obtain ⟨rfl, _⟩ := List.cons.inj split
      obtain ⟨runs, expected⟩ := expected_of_mem_perform member second
      cases call with
      | tearDown => cases runs
      | software => cases runs
      | pmu => exact .inl ⟨(Option.some.inj expected).symm, fun _ listed => by cases listed⟩
    | cons head before =>
      obtain ⟨rfl, others⟩ := List.cons.inj split
      rcases ih others with ⟨ready, phases⟩ | ⟨first, success, between, same, found⟩
      · rw [lifecycle_perform] at ready
        rcases Call.ready_of_next ready with ⟨already, phase⟩ | ⟨software, well⟩
        · refine .inl ⟨already, ?_⟩
          intro other listed
          rcases List.mem_cons.mp listed with rfl | later
          · exact phase
          · exact phases other later
        · exact .inr ⟨[], _, before, rfl, software, well, phases⟩
      · exact .inr ⟨_ :: first, success, between, by rw [same]; rfl, found⟩

/-- The order of the phases over any run of calls on a subsystem on which nothing has run, whatever
its modules do. Each module is set up at most once in each phase and each load is requested at most
once; nothing of the second phase comes before anything of the first, nor without a software phase
that ended well since the last teardown, and after a teardown there are only releases. A phase that
is called in another state than it expects is refused with that state and changes nothing, on any
subsystem. -/
theorem performAll_order (capabilities : Capabilities) (modules : ModuleTable M) (channel : P)
    (image : Option (List UInt8)) (calls : List Call) :
    let run := performAll calls (start capabilities modules channel image)
    let events := Event.calls run.journal
    let entries := history calls (start capabilities modules channel image)
    entries.map Performed.call = calls ∧ entries.map Performed.ended = run.value ∧
    entries.flatMap Performed.made = events ∧
    (∀ phase domain, events.count (.setUp phase domain) ≤ 1) ∧
    (∀ which, events.count (.load which) ≤ 1) ∧
    (events.Pairwise fun earlier later =>
      earlier.phase? = some .pmu → later.phase? ≠ some .software) ∧
    (∀ before entry after, entries = before ++ entry :: after →
      ∀ event ∈ entry.made, event.phase? = some .pmu →
      ∃ first success between, before = first ++ success :: between ∧
        success.call = .software ∧ success.ended = .ok () ∧
        ∀ other ∈ between, other.call ≠ .tearDown) ∧
    (entries.Pairwise fun earlier later =>
      earlier.call = .tearDown → ∀ event ∈ later.made, event.phase? = none) ∧
    ∀ (call : Call) (expected : Lifecycle) (support : Support M P),
      call.expected? = some expected → support.lifecycle ≠ expected →
      perform call support = ⟨.error (.phaseOrder expected support.lifecycle), support, []⟩ := by
  intro run events entries
  have ordered : events.Pairwise Event.Ordered := pairwise_performAll calls _
  obtain ⟨called, ended, made⟩ := history_eq calls (start capabilities modules channel image)
  refine ⟨called, ended, made, ?_, ?_, ?_, ?_, pairwise_history calls _, ?_⟩
  · intro phase domain
    have own : (Event.setUp phase domain).phase? = some phase := rfl
    exact Event.count_le_one ordered own
  · intro which
    have own : (Event.load which).phase? = some .pmu := rfl
    exact Event.count_le_one ordered own
  · exact ordered.imp fun order => order.forward
  · intro before entry after split event member second
    rcases succeeded_before split member second with ⟨ready, _⟩ | found
    · cases ready
    · exact found
  · intro call expected support asks other
    exact perform_of_unexpected asks other

end Support

end PerfStates
