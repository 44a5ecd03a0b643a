import PerfStates.Proofs.Bringup.Prepared

namespace PerfStates

namespace Config

/-- The slots of a domain's group that the unit is told are live. -/
def liveSlots (config : Config) (domain : Domain) : SlotMask :=
  if domain = .clkDomain then SlotMask.lowest Group.smallCapacity config.clocks.length
  else SlotMask.lowest (ObjectDomain.capacity domain) (config.objectCount domain)

/-- The command that a step of the second phase sends, if it sends one. -/
def command? (config : Config) : PmuStep → Option Command
  | .bestEffort _ => if config.memoryClock then some .initMemoryClock else none
  | .domain domain => some (.setGroup domain (config.liveSlots domain))
  | .load which => some (.load which)

end Config

/-- The failure of the second phase when the unit does not do what a command asks. -/
def Command.refusal (command : Command) (cause : ChannelError) : Failure :=
  match command.target with
  | .domain domain => .setup domain .pmu (.channel cause)
  | .load which => .load which cause

namespace Support

open ModuleTable (initial?)

variable {P : Type}

/-- A subsystem made from a configuration once its software phase has completed. -/
structure Built (config : Config) (image : Option (List UInt8))
    (support : Support BuiltinModule P) : Prop where
  capabilities : support.capabilities = config.capabilities
  firmware : support.image = image
  units : ∀ domain, domain.isFoundation = true →
    support.modules.get? domain = some (.unit ⟨domain, true⟩)
  objects : ∀ domain, domain.isObjectModel = true →
    support.modules.get? domain = some (.objects ⟨domain, config.objectCount domain,
      if SoftwareStep.domain domain ∈ Sequence.enabled config.capabilities Sequence.software then
        some (ObjectDomain.built domain (config.objectCount domain)) else none⟩)
  objects_fit : ∀ domain, domain.isObjectModel = true →
    SoftwareStep.domain domain ∈ Sequence.enabled config.capabilities Sequence.software →
    config.objectCount domain ≤ ObjectDomain.capacity domain
  clockModule : support.modules.get? .clkDomain = some (.clocks ⟨config.clocks, true⟩)
  memoryClock : ∃ initialised, support.modules.get? .mclk =
    if config.memoryClock then some (.memoryClock ⟨initialised, 0⟩) else none
  clocks : support.workspace.clocks = Group.filled Group.smallCapacity config.clocks
  clocks_fit : config.clocks.length ≤ Group.smallCapacity
  registry : ∃ registry, support.registry = some registry ∧
    Registry.decoded support.workspace.clocks image = .ok registry

theorem Prepared.built {config : Config} {image : Option (List UInt8)} {channel : P}
    {support : Support BuiltinModule P}
    (prepared : Prepared config image channel
      (Sequence.enabled config.capabilities Sequence.software) support) :
    Built config image support := by
  have clocksMember : SoftwareStep.domain .clkDomain ∈
      Sequence.enabled config.capabilities Sequence.software := Sequence.clkDomain_mem_software
  have clocks : support.workspace.clocks = Group.filled Group.smallCapacity config.clocks := by
    rw [prepared.clocks, if_pos clocksMember]
  refine ⟨prepared.capabilities, prepared.firmware, fun domain live => ?_, fun domain live => ?_,
    fun domain live member => ?_, ?_, ?_, clocks, prepared.clocks_fit clocksMember, ?_⟩
  · rw [prepared.modules, if_pos (Sequence.foundation_mem_software live),
      ModuleTable.initial?_foundation config live]
    rfl
  · rw [prepared.modules, ModuleTable.initial?_objects config live]
    split <;> rfl
  · exact Config.objects_fit_of_obstacle?_eq_none (prepared.free_of_obstacles domain member) live
  · rw [prepared.modules, if_pos clocksMember]
    rfl
  · exact ⟨false, by rw [prepared.modules, if_neg Sequence.mclk_not_mem_software]; rfl⟩
  · rw [clocks]
    exact prepared.decoded Sequence.table_mem_software

variable {config : Config} {image : Option (List UInt8)} {support : Support BuiltinModule P}

theorem Built.request?_eq (built : Built config image support) {gated : Gated PmuStep}
    (member : gated ∈ Sequence.binding) (on : gated.enabled config.capabilities = true)
    {domain : Domain} (same : gated.step = .domain domain) :
    ∃ model, support.modules.get? domain = some model ∧ model.programmed = model ∧
      model.request? support.workspace.clocks =
        .ok (some (.setGroup domain (config.liveSlots domain))) := by
  obtain ⟨listed, live | rfl⟩ := Sequence.software_of_mem_binding member same
  · have enabled : SoftwareStep.domain domain ∈
        Sequence.enabled config.capabilities Sequence.software :=
      Sequence.mem_enabled.mpr ⟨_, listed, on, rfl⟩
    obtain ⟨_, other, _⟩ := Domain.ne_of_isObjectModel live
    refine ⟨_, built.objects domain live, rfl, ?_⟩
    simp [BuiltinModule.request?, enabled, ObjectDomain.built, Group.filled, Config.liveSlots,
      other]
  · refine ⟨_, built.clockModule, rfl, ?_⟩
    simp [BuiltinModule.request?, built.clocks, Group.filled, Config.liveSlots]

/-- A step that must succeed sends its command; it changes the channel and nothing else, and
fails exactly if the unit does not do what it is asked. -/
theorem Built.ending_pmuStep [Channel P] (built : Built config image support)
    {gated : Gated PmuStep} (member : gated ∈ Sequence.binding)
    (on : gated.enabled config.capabilities = true) :
    ∃ command, config.command? gated.step = some command ∧ command.target ≠ .domain .mclk ∧
      (pmuStep gated.step).ending support =
        match (Channel.exchange command).ending support.workspace.channel with
        | (.ok _, channel) => (.ok (), support.withChannel channel)
        | (.error cause, channel) =>
          (.error (command.refusal cause), support.withChannel channel) := by
  cases same : gated.step with
  | bestEffort domain => exact absurd same (Sequence.not_bestEffort_of_mem_binding member domain)
  | domain domain =>
    obtain ⟨model, found, settled, asks⟩ := built.request?_eq member on same
    have other : domain ≠ .mclk := by
      obtain ⟨_, live | rfl⟩ := Sequence.software_of_mem_binding member same
      · exact (Domain.ne_of_isObjectModel live).2.2
      · decide
    refine ⟨_, rfl, by simpa [Command.target] using other, ?_⟩
    simp only [pmuStep, Attempt.ending_bind, ending_note, ending_setUp, found,
      DomainModule.setUp, BuiltinModule.ending_setUpPmu, asks, Workspace.ending_send]
    rcases (Channel.exchange _).ending support.workspace.channel with ⟨_ | answer, channel⟩
    all_goals
      simp only [mapError_ok, mapError_error, Except.map, settled, DomainMap.insert_eq_self found]
      rfl
  | load which =>
    refine ⟨_, rfl, by simp [Command.target], ?_⟩
    simp only [pmuStep, Attempt.ending_bind, ending_note, Attempt.ending_record,
      Attempt.ending_mapError, ending_onChannel]
    rcases (Channel.exchange (.load which)).ending support.workspace.channel with
      ⟨_ | answer, channel⟩ <;> rfl

/-- The first step programs the memory clock, if there is one; it cannot fail. -/
theorem Built.ending_memoryClock [Channel P] (built : Built config image support) :
    (pmuStep (.bestEffort .mclk)).ending support =
      if config.memoryClock then
        match (Channel.exchange .initMemoryClock).ending support.workspace.channel with
        | (.ok _, channel) => (.ok (), { support.withChannel channel with
            modules := support.modules.insert .mclk (.memoryClock ⟨true, 0⟩) })
        | (.error _, channel) => (.ok (), support.withChannel channel)
      else (.ok (), support) := by
  obtain ⟨initialised, found⟩ := built.memoryClock
  cases there : config.memoryClock with
  | false =>
    simp only [there, Bool.false_eq_true, ↓reduceIte] at found
    simp [pmuStep, DomainMap.contains, found]
  | true =>
    simp only [there, ↓reduceIte] at found
    have present : support.modules.contains .mclk = true := by simp [DomainMap.contains, found]
    simp only [pmuStep, Attempt.ending_bind, Attempt.ending_get, present, ↓reduceIte,
      Attempt.ending_outcome, ending_setUp, found, DomainModule.setUp,
      BuiltinModule.ending_setUpPmu, BuiltinModule.request?, Workspace.ending_send]
    rcases (Channel.exchange .initMemoryClock).ending support.workspace.channel with
      ⟨_ | answer, channel⟩
    · simp only [mapError_error, Except.map, DomainMap.insert_eq_self found]
      rfl
    · rfl

theorem Built.withChannel (built : Built config image support) (channel : P) :
    Built config image (support.withChannel channel) :=
  { built with }

theorem Built.withMemoryClock (built : Built config image support)
    (there : config.memoryClock = true) (initialised : Bool) :
    Built config image { support with
      modules := support.modules.insert .mclk (.memoryClock ⟨initialised, 0⟩) } := by
  have kept {domain : Domain} (other : Domain.mclk ≠ domain) :
      (support.modules.insert .mclk (.memoryClock ⟨initialised, 0⟩)).get? domain =
        support.modules.get? domain := DomainMap.get?_insert_of_ne _ _ other
  refine { built with
    units := fun domain live => ?_
    objects := fun domain live => ?_
    clockModule := ?_
    memoryClock := ?_ }
  · rw [kept (Domain.ne_of_isFoundation live).2.2.symm]
    exact built.units domain live
  · rw [kept (Domain.ne_of_isObjectModel live).2.2.symm]
    exact built.objects domain live
  · rw [kept (by decide)]
    exact built.clockModule
  · exact ⟨initialised, by rw [if_pos there, DomainMap.get?_insert_self]⟩

theorem Built.withLifecycle (built : Built config image support) (lifecycle : Lifecycle) :
    Built config image { support with lifecycle } :=
  { built with }

theorem Built.after_pmuStep [Channel P] (built : Built config image support)
    {gated : Gated PmuStep} (member : gated ∈ Sequence.pmu)
    (on : gated.enabled config.capabilities = true) :
    Built config image ((pmuStep gated.step).ending support).2 := by
  rcases List.mem_cons.mp (Sequence.pmu_eq ▸ member) with rfl | binding
  · rw [built.ending_memoryClock]
    split
    · rename_i there
      rcases (Channel.exchange .initMemoryClock).ending support.workspace.channel with
        ⟨_ | answer, channel⟩
      · exact built.withChannel channel
      · exact (built.withChannel channel).withMemoryClock there true
    · exact built
  · obtain ⟨command, _, _, ended⟩ := built.ending_pmuStep binding on
    rw [ended]
    rcases (Channel.exchange command).ending support.workspace.channel with ⟨_ | answer, channel⟩
    · exact built.withChannel channel
    · exact built.withChannel channel

theorem Built.after_pmuSteps [Channel P] (sequence : List (Gated PmuStep))
    (within : ∀ gated ∈ sequence, gated ∈ Sequence.pmu) (built : Built config image support) :
    Built config image ((pmuSteps sequence).ending support).2 := by
  induction sequence generalizing support with
  | nil => exact built
  | cons gated rest ih =>
    obtain ⟨member, within⟩ := List.forall_mem_cons.mp within
    cases on : gated.enabled config.capabilities with
    | false =>
      rw [ending_pmuSteps_of_disabled (built.capabilities ▸ on)]
      exact ih within built
    | true =>
      have taken := built.after_pmuStep member on
      rw [ending_pmuSteps_of_enabled (built.capabilities ▸ on)]
      rcases ended : (pmuStep gated.step).ending support with ⟨failure | value, after⟩
      · rw [ended] at taken
        exact taken
      · rw [ended] at taken
        exact ih within taken

theorem Built.after_pmuPhase [Channel P] (built : Built config image support) :
    Built config image (pmuPhase.ending support).2 := by
  rw [ending_pmuPhase]
  split
  · rw [ending_finish]
    exact (built.after_pmuSteps Sequence.pmu fun _ => id).withLifecycle _
  · exact built

theorem capabilities_ofConfig (config : Config) (channel : P) (image : Option (List UInt8)) :
    (ofConfig config channel image).capabilities = config.capabilities := by
  simp only [ofConfig, start]

theorem channel_ofConfig (config : Config) (channel : P) (image : Option (List UInt8)) :
    (ofConfig config channel image).workspace.channel = channel := by
  simp only [ofConfig, start, Workspace.start]

theorem withChannel_ofConfig (config : Config) (channel other : P) (image : Option (List UInt8)) :
    (ofConfig config channel image).withChannel other = ofConfig config other image := by
  simp only [ofConfig, start, withChannel, Workspace.start]

/-- The enabled steps, all or some of them, prepare a subsystem made from a configuration. -/
theorem prepared_of_completes [Channel P] {channel : P} {done rest : List SoftwareStep}
    {last : Support BuiltinModule P}
    (steps : Sequence.enabled config.capabilities Sequence.software = done ++ rest)
    (completes : Completes (ofConfig config channel image) done last) :
    Prepared config image channel done last := by
  have distinct : done.Nodup := (List.nodup_append.mp (steps ▸ Sequence.nodup_software _)).1
  refine (prepared_ofConfig config image channel).completes completes distinct ?_
  intro before after split
  rw [List.nil_append] at split
  rw [split, List.append_assoc, List.cons_append] at steps
  exact Sequence.clkDomain_before_table steps

theorem built_of_softwarePhase [Channel P] {channel : P} {ready : Support BuiltinModule P}
    (ended : softwarePhase.ending (ofConfig config channel image) = (.ok (), ready)) :
    Built config image ready ∧ ready.lifecycle = .softwareReady ∧
      Channel.waitReady.ending channel = (.ok (), ready.workspace.channel) ∧
      ready.modules.get? .mclk = initial? config .mclk := by
  obtain ⟨trace, after, run, rfl⟩ := softwareRun_of_ending rfl ended
  cases run with
  | @complete woken _ waited completes =>
    rw [withChannel_ofConfig, capabilities_ofConfig] at completes
    have prepared := prepared_of_completes (List.append_nil _).symm completes
    refine ⟨prepared.built.withLifecycle _, rfl, ?_, ?_⟩
    · rw [prepared.channel]
      exact waited
    · rw [prepared.modules, if_neg Sequence.mclk_not_mem_software]

end Support

end PerfStates
