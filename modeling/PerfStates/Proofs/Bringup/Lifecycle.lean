import PerfStates.Proofs.Bringup.Commands
import PerfStates.Proofs.Bringup.Runs

namespace PerfStates

namespace Support

open ModuleTable (initial?)

/-- No foundation holds its state. -/
def Unreserved {P : Type} (support : Support BuiltinModule P) : Prop :=
  ∀ domain, domain.isFoundation = true →
    support.modules.get? domain = some (.unit ⟨domain, false⟩)

/-- Whatever happened, each domain has the module it was configured with. -/
def Shaped {P : Type} (config : Config) (support : Support BuiltinModule P) : Prop :=
  ∀ domain, (support.modules.get? domain).map BuiltinModule.blank = initial? config domain

variable {P : Type} {config : Config} {image : Option (List UInt8)} {channel : P}
  {support : Support BuiltinModule P}

theorem Prepared.shaped {done : List SoftwareStep}
    (prepared : Prepared config image channel done support) : Shaped config support := by
  intro domain
  rw [prepared.modules]
  split
  · rw [Option.map_map]
    have same : BuiltinModule.blank ∘ BuiltinModule.built = BuiltinModule.blank :=
      funext BuiltinModule.blank_built
    rw [same, ModuleTable.blank_initial?]
  · exact ModuleTable.blank_initial? config domain

theorem Prepared.unreserved (prepared : Prepared config image channel [] support) :
    Unreserved support := by
  intro domain live
  rw [prepared.modules, if_neg List.not_mem_nil, ModuleTable.initial?_foundation config live]
  rfl

theorem shaped_foldl_release {domains : List Domain} (distinct : domains.Nodup)
    {modules : ModuleTable BuiltinModule} {domain : Domain} :
    (((domains.foldl release modules).get? domain).map BuiltinModule.blank) =
      (modules.get? domain).map BuiltinModule.blank := by
  rw [get?_foldl_release distinct]
  split
  · rw [Option.map_map]
    congr 1
    funext model
    rw [Function.comp_apply, BuiltinModule.state_free, BuiltinModule.blank_released]
  · rfl

theorem Built.shaped (built : Built config image support) : Shaped config support := by
  intro domain
  by_cases unit : domain.isFoundation = true
  · rw [built.units domain unit, ModuleTable.initial?_foundation config unit]
    rfl
  by_cases model : domain.isObjectModel = true
  · rw [built.objects domain model, ModuleTable.initial?_objects config model]
    rfl
  rcases Domain.eq_of_other unit model with rfl | rfl
  · rw [built.clockModule]
    rfl
  · obtain ⟨initialised, found⟩ := built.memoryClock
    rw [found, ModuleTable.initial?_mclk]
    split <;> rfl

/-- A failed phase has released every foundation that it set up. -/
theorem unreserved_of_unwound (support : Support BuiltinModule P) {done : List SoftwareStep}
    {before after : Support BuiltinModule P} (distinct : done.Nodup)
    (prepared : Prepared config image channel done before)
    (same : ∀ domain, after.modules.get? domain = before.modules.get? domain)
    (modules : support.modules = (SoftwareStep.unwound done).foldl release after.modules) :
    Unreserved support ∧ Shaped config support := by
  have freed := SoftwareStep.nodup_unwound distinct
  refine ⟨fun domain live => ?_, fun domain => ?_⟩
  · rw [modules, get?_foldl_release freed, same, prepared.modules,
      ModuleTable.initial?_foundation config live]
    by_cases member : SoftwareStep.domain domain ∈ done
    · rw [if_pos (SoftwareStep.mem_unwound.mpr ⟨member, live⟩), if_pos member]
      rfl
    · rw [if_neg fun listed => member (SoftwareStep.mem_unwound.mp listed).1, if_neg member]
      rfl
  · rw [modules, shaped_foldl_release freed, same]
    exact prepared.shaped domain

/-- After a failed software phase no foundation holds its state, and the registry is there
exactly if the table was decoded before the step that failed. -/
theorem unreserved_of_softwarePhase [Channel P] {failure : Failure}
    (ended : softwarePhase.ending (ofConfig config channel image) = (.error failure, support)) :
    Unreserved support ∧ Shaped config support ∧
      (Channel.waitReady.ending channel).2 = support.workspace.channel ∧
      ((∃ cause, (Channel.waitReady.ending channel).1 = .error cause ∧
          failure = .notReady cause ∧ support.registry = none) ∨
        ∃ done step rest before made after,
          Sequence.enabled config.capabilities Sequence.software = done ++ step :: rest ∧
          Completes (ofConfig config support.workspace.channel image) done before ∧
          StepFails before step failure made after ∧
          (support.registry.isSome = true ↔ SoftwareStep.table ∈ done)) := by
  obtain ⟨trace, last, run, rfl⟩ := softwareRun_of_ending rfl ended
  cases run with
  | @notReady cause woken waited =>
    rw [channel_ofConfig] at waited
    rw [withChannel_ofConfig]
    have prepared := (prepared_ofConfig config image woken).withLifecycle .failed
    exact ⟨prepared.unreserved, prepared.shaped, by rw [waited, prepared.channel],
      .inl ⟨cause, by rw [waited], rfl, prepared.undecoded List.not_mem_nil⟩⟩
  | @failed woken done rest step before after _ made waited steps completes fails =>
    rw [channel_ofConfig] at waited
    rw [withChannel_ofConfig] at completes
    rw [capabilities_ofConfig] at steps
    have first : done.Nodup :=
      (List.nodup_append.mp (steps ▸ Sequence.nodup_software config.capabilities)).1
    have prepared := prepared_of_completes steps completes
    obtain ⟨fresh, present, _⟩ := Sequence.step_of_software steps
    obtain ⟨same, registry, kept⟩ := prepared.unchanged fresh present fails
    obtain ⟨unreserved, shaped⟩ := unreserved_of_unwound { after with
      modules := (SoftwareStep.unwound done).foldl release after.modules
      lifecycle := .failed } first prepared same rfl
    refine ⟨unreserved, shaped, by rw [waited, kept], .inr ⟨done, step, rest, before, made, after,
      steps, by rwa [kept], fails, ?_⟩⟩
    rw [registry]
    constructor
    · intro there
      by_contra absent
      rw [prepared.undecoded absent] at there
      cases there
    · intro member
      obtain ⟨decoded, found, _⟩ := prepared.decoded member
      rw [found]
      rfl

theorem unreserved_of_tearDown (shaped : Shaped config support) :
    Unreserved (tearDown support).state ∧ Shaped config (tearDown support).state ∧
      (tearDown support).state.registry = none ∧
      ∃ shutdowns, (tearDown support).state.modules.get? .mclk =
        if config.memoryClock then some (.memoryClock ⟨false, shutdowns⟩) else none := by
  have distinct : teardownOrder.Nodup := by decide
  rw [state_tearDown]
  refine ⟨fun domain live => ?_, fun domain => ?_, rfl, ?_⟩
  · have listed : domain ∈ teardownOrder := by
      revert live
      cases domain <;> decide
    have kind := shaped domain
    rw [ModuleTable.initial?_foundation config live] at kind
    obtain ⟨model, found, same⟩ := Option.map_eq_some_iff.mp kind
    rw [get?_foldl_release distinct, if_pos listed, found, Option.map_some,
      BuiltinModule.state_free]
    cases model <;> cases same
    rfl
  · exact (shaped_foldl_release distinct).trans (shaped domain)
  · have kind := shaped .mclk
    rw [get?_foldl_release distinct, if_pos (by decide)]
    rw [ModuleTable.initial?_mclk] at kind
    cases there : config.memoryClock with
    | false =>
      rw [there] at kind
      exact ⟨0, by rw [Option.map_eq_none_iff.mp kind]; rfl⟩
    | true =>
      rw [there] at kind
      obtain ⟨model, found, same⟩ := Option.map_eq_some_iff.mp kind
      rw [found, Option.map_some, BuiltinModule.state_free]
      cases model with
      | memoryClock clock => exact ⟨_, rfl⟩
      | unit model => cases same
      | objects model => cases same
      | clocks model => cases same

theorem Built.of_pmuPhase {ready support : Support BuiltinModule Loopback}
    (built : Built config image ready) (lifecycle : ready.lifecycle = .softwareReady)
    {ended : Except Failure Unit} (ending : pmuPhase.ending ready = (ended, support)) :
    Built config image support ∧ support.workspace.clocks = ready.workspace.clocks ∧
      support.registry = ready.registry ∧
      ∀ domain, domain ≠ .mclk → support.modules.get? domain = ready.modules.get? domain := by
  obtain ⟨sent, _, left⟩ := built.ending_pmuPhase lifecycle
  rw [ending] at left
  dsimp only at left
  subst left
  have told := built.withChannel (ready.workspace.channel.after sent)
  by_cases programmed : (config.memoryClock &&
      (ready.workspace.channel.rejection? (.domain .mclk)).isNone) = true
  · simp only [programmed, ↓reduceIte]
    have there : config.memoryClock = true := (Bool.and_eq_true_iff.mp programmed).1
    exact ⟨(told.withMemoryClock there true).withLifecycle _, rfl, rfl,
      fun domain other => DomainMap.get?_insert_of_ne _ _ (Ne.symm other)⟩
  · simp only [programmed]
    exact ⟨told.withLifecycle _, rfl, rfl, fun _ _ => rfl⟩

theorem Reached.shaped {loopback : Loopback} {support : Support BuiltinModule Loopback}
    (reached : Reached (ofConfig config loopback image) support) : Shaped config support := by
  induction reached with
  | fresh => exact (prepared_ofConfig config image loopback).shaped
  | softwareReady ended => exact (built_of_softwarePhase ended).1.shaped
  | softwareFailed ended => exact (unreserved_of_softwarePhase ended).2.1
  | pmuReady software ended =>
    obtain ⟨built, lifecycle, _⟩ := built_of_softwarePhase software
    exact (built.of_pmuPhase lifecycle ended).1.shaped
  | pmuFailed software ended =>
    obtain ⟨built, lifecycle, _⟩ := built_of_softwarePhase software
    exact (built.of_pmuPhase lifecycle ended).1.shaped
  | tornDown _ ih => exact (unreserved_of_tearDown ih).2.1

/-- What holds of the modules that come with the library after any calls, by the state that the
calls have brought the subsystem to. A failed subsystem tells which phase failed: behind a failed
software phase nothing was sent and no foundation holds its state, and behind a failed second
phase everything is as the software phase left it, but for the memory clock. One more call moves
the subsystem on as it ends. -/
theorem performAll_invariant (config : Config) (loopback : Loopback) (image : Option (List UInt8))
    (calls : List Call) :
    let start := ofConfig config loopback image
    let support := (performAll calls start).state
    let sent := support.workspace.channel.sent
    (match support.lifecycle with
    | .uninitialized => Unreserved support ∧
        (∀ domain, domain.isObjectModel = true → support.modules.get? domain =
          some (.objects ⟨domain, config.objectCount domain, none⟩)) ∧
        support.workspace.clocks = Group.empty Group.smallCapacity ∧
        support.registry = none ∧ sent = loopback.sent
    | .softwareReady => Built config image support ∧ sent = loopback.sent
    | .pmuReady => Built config image support
    | .failed =>
        (∃ failure, (softwarePhase.ending start).1 = .error failure ∧
          Unreserved support ∧ sent = loopback.sent ∧
          ((loopback.ready = false ∧ support.registry = none) ∨
            ∃ done step rest before made after,
              Sequence.enabled config.capabilities Sequence.software = done ++ step :: rest ∧
              Completes start done before ∧ StepFails before step failure made after ∧
              (support.registry.isSome = true ↔ SoftwareStep.table ∈ done))) ∨
        ∃ ready failure, softwarePhase.ending start = (.ok (), ready) ∧
          (pmuPhase.ending ready).1 = .error failure ∧ Built config image support ∧
          support.workspace.clocks = ready.workspace.clocks ∧
          support.registry = ready.registry ∧
          ∀ domain, domain ≠ .mclk → support.modules.get? domain = ready.modules.get? domain
    | .tornDown => Unreserved support ∧ support.registry = none ∧
        ∃ shutdowns, support.modules.get? .mclk =
          if config.memoryClock then some (.memoryClock ⟨false, shutdowns⟩) else none) ∧
    ∀ call : Call, call.Moves (perform call support).value support.lifecycle
      (perform call support).state.lifecycle := by
  intro start support sent
  refine ⟨?_, fun call => moves_perform call support⟩
  have fresh : start.lifecycle = .uninitialized := rfl
  have reached : Reached start support := reached_performAll fresh .fresh calls
  clear_value support
  cases reached with
  | fresh =>
    rw [fresh]
    have prepared := prepared_ofConfig config image loopback
    refine ⟨prepared.unreserved, fun domain live => ?_, ?_, prepared.undecoded List.not_mem_nil,
      congrArg Loopback.sent prepared.channel⟩
    · rw [prepared.modules, if_neg List.not_mem_nil, ModuleTable.initial?_objects config live]
      rfl
    · rw [prepared.clocks, if_neg List.not_mem_nil, Group.empty_eq_filled]
  | softwareReady ended =>
    obtain ⟨built, lifecycle, woken, _⟩ := built_of_softwarePhase ended
    rw [lifecycle]
    exact ⟨built, congrArg Loopback.sent (Loopback.eq_of_waitReady woken)⟩
  | @softwareFailed _ failure ended =>
    obtain ⟨unreserved, _, kept, cause⟩ := unreserved_of_softwarePhase ended
    rw [lifecycle_softwarePhase fresh ended]
    rw [Loopback.ending_waitReady] at kept cause
    change loopback = support.workspace.channel at kept
    refine .inl ⟨failure, by rw [ended], unreserved, congrArg Loopback.sent kept.symm, ?_⟩
    rcases cause with ⟨cause, refused, _, none⟩ |
      ⟨done, step, rest, before, made, after, steps, completes, fails, present⟩
    · refine .inl ⟨?_, none⟩
      cases there : loopback.ready with
      | false => rfl
      | true => rw [there] at refused; cases refused
    · rw [← kept] at completes
      exact .inr ⟨done, step, rest, before, made, after, steps, completes, fails, present⟩
  | pmuReady software ended =>
    obtain ⟨built, ready, _⟩ := built_of_softwarePhase software
    rw [lifecycle_pmuPhase ready ended]
    exact (built.of_pmuPhase ready ended).1
  | @pmuFailed ready _ failure software ended =>
    obtain ⟨built, lifecycle, _⟩ := built_of_softwarePhase software
    rw [lifecycle_pmuPhase lifecycle ended]
    exact .inr ⟨ready, failure, software, by rw [ended], built.of_pmuPhase lifecycle ended⟩
  | tornDown before =>
    obtain ⟨unreserved, _, registry, clock⟩ := unreserved_of_tearDown before.shaped
    rw [lifecycle_tearDown]
    exact ⟨unreserved, registry, clock⟩

/-- With a load that is rejected, the software phase, the second phase and a teardown bring the
subsystem to three different states. -/
theorem performAll_invariant_of_rejected_load :
    let config : Config := { Config.empty with memoryClock := true }
    let loopback : Loopback := ⟨true, [(.load .volt, 7)], []⟩
    let image : Option (List UInt8) := some [0x50, 10, 2, 1, 6, 0, 0, 0, 0, 0, 15, 0]
    let behind (calls : List Call) := (performAll calls (ofConfig config loopback image)).state
    (behind [.software]).lifecycle = .softwareReady ∧
      Built config image (behind [.software]) ∧
      (behind [.software]).workspace.channel.sent = [] ∧
      (behind [.software, .pmu]).lifecycle = .failed ∧
      Built config image (behind [.software, .pmu]) ∧
      (behind [.software, .pmu]).workspace.channel.sent ≠ [] ∧
      (behind [.software, .pmu, .tearDown]).lifecycle = .tornDown ∧
      Unreserved (behind [.software, .pmu, .tearDown]) ∧
      (behind [.software, .pmu, .tearDown]).registry = none := by
  intro config loopback image behind
  have software : (behind [.software]).lifecycle = .softwareReady := by decide +kernel
  have pmu : (behind [.software, .pmu]).lifecycle = .failed := by decide +kernel
  have down : (behind [.software, .pmu, .tearDown]).lifecycle = .tornDown := by decide +kernel
  have sent : (behind [.software, .pmu]).workspace.channel.sent ≠ [] := by decide +kernel
  have ready := performAll_invariant config loopback image [.software]
  have failed := performAll_invariant config loopback image [.software, .pmu]
  have released := performAll_invariant config loopback image [.software, .pmu, .tearDown]
  simp only [behind] at software pmu down sent ⊢
  simp only [software] at ready
  simp only [pmu] at failed
  simp only [down] at released
  obtain ⟨⟨prepared, unsent⟩, _⟩ := ready
  obtain ⟨⟨unreserved, gone, _⟩, _⟩ := released
  refine ⟨software, prepared, unsent, pmu, ?_, sent, down, unreserved, gone⟩
  obtain ⟨failed, _⟩ := failed
  rcases failed with ⟨failure, refused, _⟩ | ⟨_, _, _, _, built, _⟩
  · have succeeded : (softwarePhase.ending (ofConfig config loopback image)).1 = .ok () :=
      eq_ok_of_toOption (by decide +kernel)
    cases succeeded.symm.trans refused
  · exact built

end Support

end PerfStates
