import PerfStates.Proofs.Bringup.Steps

namespace PerfStates.Support

variable {M P : Type} [DomainModule M] [Channel P]

/-- How the software phase can run: how it ends, the calls it makes and the subsystem it
leaves, before that moves on to its next state. -/
inductive SoftwareRun (support : Support M P) :
    Except Failure Unit → List Event → Support M P → Prop where
  | notReady {cause : ChannelError} {channel : P}
      (waited : Channel.waitReady.ending support.workspace.channel = (.error cause, channel)) :
      SoftwareRun support (.error (.notReady cause)) [] (support.withChannel channel)
  | complete {channel : P} {last : Support M P}
      (waited : Channel.waitReady.ending support.workspace.channel = (.ok (), channel))
      (completes : Completes (support.withChannel channel)
        (Sequence.enabled support.capabilities Sequence.software) last) :
      SoftwareRun support (.ok ())
        ((Sequence.enabled support.capabilities Sequence.software).flatMap SoftwareStep.calls) last
  | failed {channel : P} {done rest : List SoftwareStep} {step : SoftwareStep}
      {before after : Support M P} {failure : Failure} {made : List Event}
      (waited : Channel.waitReady.ending support.workspace.channel = (.ok (), channel))
      (steps : Sequence.enabled support.capabilities Sequence.software = done ++ step :: rest)
      (completes : Completes (support.withChannel channel) done before)
      (fails : StepFails before step failure made after) :
      SoftwareRun support (.error failure)
        (done.flatMap SoftwareStep.calls ++ made ++ (SoftwareStep.unwound done).map .free)
        { after with modules := (SoftwareStep.unwound done).foldl release after.modules }

/-- The software phase waits for the unit, then takes the enabled steps up to the first that
fails and releases the foundations set up by then. -/
theorem runSoftware_outcome (support : Support M P) :
    SoftwareRun support (runSoftware.ending support).1 (runSoftware.made support)
      (runSoftware.ending support).2 := by
  simp only [runSoftware, Attempt.ending_bind, Attempt.made_bind, Attempt.ending_mapError,
    Attempt.made_mapError, ending_onChannel, made_onChannel, List.nil_append]
  rcases waited : (Channel.waitReady : Attempt Message P ChannelError Unit).ending
    support.workspace.channel with ⟨cause | ⟨⟨⟩⟩, channel⟩
  · exact .notReady waited
  · simp only [mapError_ok]
    rcases softwareSteps_outcome Sequence.software [] (support.withChannel channel)
        (fun domain member => by simp at member) with
      ⟨last, completes, ended, trace⟩ |
      ⟨done, step, rest, before, failure, made, after, steps, completes, fails, ended, trace⟩
    · rw [ended, trace]
      exact .complete waited completes
    · have distinct : done.Nodup :=
        (List.nodup_append.mp (steps ▸ Sequence.nodup_software _)).1
      rw [ended, trace, foldl_foundationsAfter_nil distinct]
      exact .failed waited steps completes fails

theorem softwarePhase_outcome (support : Support M P)
    (fresh : support.lifecycle = .uninitialized) :
    ∃ after, SoftwareRun support (softwarePhase.ending support).1 (softwarePhase.made support)
        after ∧
      (softwarePhase.ending support).2 = { after with
        lifecycle := Lifecycle.softwareReady.reached (softwarePhase.ending support).1 } := by
  have made : softwarePhase.made support = runSoftware.made support := by
    simp only [softwarePhase, Attempt.made_bind, ending_expect, made_expect, fresh, ↓reduceIte,
      Attempt.ending_get, Attempt.made_get, ending_note, made_note, List.nil_append, made_finish]
  rw [ending_softwarePhase, if_pos fresh, made, ending_finish]
  exact ⟨_, runSoftware_outcome support, rfl⟩

theorem softwareRun_of_ending {start support : Support M P} {ended : Except Failure Unit}
    (fresh : start.lifecycle = .uninitialized)
    (ending : softwarePhase.ending start = (ended, support)) :
    ∃ trace after, SoftwareRun start ended trace after ∧
      support = { after with lifecycle := Lifecycle.softwareReady.reached ended } := by
  obtain ⟨after, run, left⟩ := softwarePhase_outcome start fresh
  rw [ending] at run left
  exact ⟨_, after, run, left⟩

/-- The whole software phase of a fresh subsystem, whatever its modules, capabilities, unit and
image. Without the unit nothing is called. Otherwise each enabled step is taken once, in order,
up to the first that fails; the foundations set up before it are then released, newest first,
and nothing behind it is touched. -/
theorem softwarePhase_trace (support : Support M P) (fresh : support.lifecycle = .uninitialized) :
    let steps := Sequence.enabled support.capabilities Sequence.software
    let ended := softwarePhase.run support
    let calls := Event.calls ended.journal
    steps.Nodup ∧
    (∀ cause channel,
      Channel.waitReady.ending support.workspace.channel = (.error cause, channel) →
      ended.value = .error (.notReady cause) ∧ calls = [] ∧
        ended.state = { support.withChannel channel with lifecycle := .failed }) ∧
    ∀ channel, Channel.waitReady.ending support.workspace.channel = (.ok (), channel) →
      (∃ last, Completes (support.withChannel channel) steps last ∧
        Confined steps (support.withChannel channel) last ∧
        ended.value = .ok () ∧ calls = steps.flatMap SoftwareStep.calls ∧
        ended.state = { last with lifecycle := .softwareReady }) ∨
      ∃ done step rest before failure made after,
        let freed := SoftwareStep.unwound done
        steps = done ++ step :: rest ∧
        Completes (support.withChannel channel) done before ∧
        StepFails before step failure made after ∧
        Confined (done ++ [step]) (support.withChannel channel) after ∧
        ended.value = .error failure ∧
        calls = done.flatMap SoftwareStep.calls ++ made ++ freed.map .free ∧
        freed.Nodup ∧
        (∀ domain, domain ∈ freed ↔
          SoftwareStep.domain domain ∈ done ∧ domain.isFoundation = true) ∧
        (∀ domain, step = .domain domain → domain ∉ freed) ∧
        (∀ domain, ended.state.modules.get? domain =
          if domain ∈ freed then
            (after.modules.get? domain).map fun model => (DomainModule.free model).state
          else after.modules.get? domain) ∧
        ended.state = { after with modules := ended.state.modules, lifecycle := .failed } := by
  intro steps ended calls
  have distinct : steps.Nodup := Sequence.nodup_software _
  obtain ⟨after, run, left⟩ := softwarePhase_outcome support fresh
  change SoftwareRun support ended.value calls after at run
  change ended.state = { after with
    lifecycle := Lifecycle.softwareReady.reached ended.value } at left
  generalize ended.value = value at run left
  generalize calls = trace at run
  refine ⟨distinct, ?_, ?_⟩
  · intro cause channel waited
    cases run with
    | notReady found =>
      cases waited.symm.trans found
      exact ⟨rfl, rfl, left⟩
    | complete found => cases waited.symm.trans found
    | failed found => cases waited.symm.trans found
  · intro channel waited
    cases run with
    | notReady found => cases waited.symm.trans found
    | complete found completes =>
      cases waited.symm.trans found
      exact .inl ⟨after, completes, completes.confined, rfl, rfl, left⟩
    | @failed _ done rest step before after failure made found split completes fails =>
      cases waited.symm.trans found
      obtain ⟨before_distinct, _, apart⟩ := List.nodup_append.mp (split ▸ distinct :
        (done ++ step :: rest).Nodup)
      have freed_distinct := SoftwareStep.nodup_unwound before_distinct
      refine .inr ⟨done, step, rest, before, failure, made, after, split, completes, fails,
        completes.confined.trans fails.confined, rfl, rfl, freed_distinct,
        fun domain => SoftwareStep.mem_unwound, ?_, ?_, ?_⟩
      · intro domain same freed
        exact apart _ (SoftwareStep.mem_unwound.mp freed).1 _ List.mem_cons_self same.symm
      · intro domain
        rw [left]
        exact get?_foldl_release freed_distinct after.modules domain
      · rw [left]
        rfl

/-- Without a thermal module, the two foundations set up before it are released again. -/
theorem softwarePhase_trace_of_missing :
    let modules : ModuleTable BuiltinModule :=
      (DomainMap.empty.insert .clk (.unit (.start .clk))).insert .perf (.unit (.start .perf))
    let support := start .none modules Loopback.accepting none
    let ended := softwarePhase.run support
    ended.value = .error (.missingDomain .therm) ∧
      Event.calls ended.journal =
        [.setUp .software .clk, .setUp .software .perf, .free .perf, .free .clk] ∧
      ∃ done step rest before failure made after,
        Sequence.enabled .none Sequence.software = done ++ step :: rest ∧
        Completes (support.withChannel Loopback.accepting) done before ∧
        StepFails before step failure made after ∧
        Confined (done ++ [step]) (support.withChannel Loopback.accepting) after ∧
        ended.value = .error failure := by
  intro modules support ended
  have refused : ended.value = .error (.missingDomain .therm) := rfl
  refine ⟨refused, by decide +kernel, ?_⟩
  rcases (softwarePhase_trace support rfl).2.2 Loopback.accepting rfl with
    ⟨last, _, _, ended_well, _⟩ |
    ⟨done, step, rest, before, failure, made, after, split, completes, fails, confined, value, _⟩
  · cases refused.symm.trans ended_well
  · exact ⟨done, step, rest, before, failure, made, after, split, completes, fails, confined, value⟩

end PerfStates.Support
