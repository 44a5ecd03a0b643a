import PerfStates.Proofs.Bringup.Trace
import PerfStates.Proofs.Module.Halves

namespace PerfStates

namespace Sequence

theorem software_of_pmu {capabilities : Capabilities} {gated : Gated PmuStep}
    (member : gated ∈ pmu) (on : gated.enabled capabilities = true) {domain : Domain}
    (same : gated.step = .domain domain) :
    SoftwareStep.domain domain ∈ enabled capabilities software := by
  rcases List.mem_cons.mp (pmu_eq ▸ member) with rfl | member
  · cases same
  · exact mem_enabled.mpr ⟨_, (software_of_mem_binding member same).1, on, rfl⟩

end Sequence

/-- The channel once it was sent commands, whatever it answered. -/
def Channel.after {P : Type} [Channel P] (commands : List Command) (channel : P) : P :=
  commands.foldl (fun channel command => ((exchange command).ending channel).2) channel

theorem Channel.after_append {P : Type} [Channel P] (first second : List Command) (channel : P) :
    after (first ++ second) channel = after second (after first channel) :=
  List.foldl_append

namespace BuiltinModule

/-- Whether the module has the model that its second half tells the unit of. -/
def Constructed : BuiltinModule → Prop
  | unit _ => True
  | objects model => model.objects.isSome = true
  | clocks model => model.constructed = true
  | memoryClock _ => True

theorem Constructed.programmed {model : BuiltinModule} (constructed : model.Constructed) :
    model.programmed.Constructed := by
  cases model with
  | memoryClock model => trivial
  | unit model => exact constructed
  | objects model => exact constructed
  | clocks model => exact constructed

variable {P : Type} [Channel P] {capabilities : Capabilities}

/-- A software half that ends well has built the model, whatever was there before. -/
theorem constructed_of_setUpSoftware {model next : BuiltinModule} {workspace after : Workspace P}
    (ended : (DomainModule.setUpSoftware capabilities).ending (model, workspace) =
      (.ok (), next, after)) : next.Constructed := by
  cases model with
  | unit model =>
    rw [ending_setUpSoftware_unit] at ended
    cases ended
    trivial
  | memoryClock model =>
    rw [ending_setUpSoftware_memoryClock] at ended
    cases ended
    trivial
  | objects model =>
    rw [ending_setUpSoftware_objects] at ended
    split at ended
    · cases ended
      rfl
    · cases ended
  | clocks model =>
    change (inside clocks model (DomainModule.setUpSoftware capabilities)).ending
      (clocks model, workspace) = _ at ended
    rw [ending_inside] at ended
    simp only [DomainModule.setUpSoftware, DomainModule.own, DomainModule.shared,
      Attempt.ending_onPart, Attempt.ending_bind, Attempt.ending_get,
      Attempt.ending_modify] at ended
    -- Only the placing of the clock domains can fail; the mark is set behind it.
    rcases placed : (ClockModule.place 0 model.entries).ending
      { workspace with clocks := workspace.clocks.clear } with ⟨cause | ⟨⟨⟩⟩, filled⟩
    · simp only [placed] at ended
      cases ended
    · simp only [placed] at ended
      cases ended
      rfl

/-- How the second half of a module can end. -/
inductive PmuHalf (model : BuiltinModule) (workspace : Workspace P) :
    Except ModuleError Unit → BuiltinModule → Workspace P → Prop where
  | unbuilt (missing : ¬ model.Constructed) :
      PmuHalf model workspace (.error .notConstructed) model workspace
  | silent : PmuHalf model workspace (.ok ()) model workspace
  | acknowledged {command : Command} {answer : Acknowledgement} {channel : P}
      (asked : (Channel.exchange command).ending workspace.channel = (.ok answer, channel)) :
      PmuHalf model workspace (.ok ()) model.programmed { workspace with channel }
  | refused {command : Command} {cause : ChannelError} {channel : P}
      (asked : (Channel.exchange command).ending workspace.channel = (.error cause, channel)) :
      PmuHalf model workspace (.error (.channel cause)) model { workspace with channel }

/-- Only a module without its model has nothing to ask for and says so. -/
theorem request?_eq_error {model : BuiltinModule} {group : Group ClockDomain} {cause : ModuleError}
    (refused : model.request? group = .error cause) :
    cause = .notConstructed ∧ ¬ model.Constructed := by
  cases model with
  | unit model => cases refused
  | memoryClock model => cases refused
  | objects model =>
    cases held : model.objects <;> simp [request?, held] at refused
    simp [Constructed, held, refused]
  | clocks model =>
    cases marked : model.constructed <;> simp [request?, marked] at refused
    simp [Constructed, marked, refused]

theorem pmuHalf_of_ending {model next : BuiltinModule} {workspace after : Workspace P}
    {ended : Except ModuleError Unit}
    (ending : (DomainModule.setUpPmu capabilities).ending (model, workspace) =
      (ended, next, after)) : PmuHalf model workspace ended next after := by
  rw [ending_setUpPmu] at ending
  cases request : model.request? workspace.clocks with
  | error cause =>
    obtain ⟨rfl, missing⟩ := request?_eq_error request
    simp only [request] at ending
    cases ending
    exact .unbuilt missing
  | ok command? =>
    simp only [request] at ending
    cases command? with
    | none =>
      cases ending
      exact .silent
    | some command =>
      simp only [Workspace.ending_send] at ending
      rcases asked : (Channel.exchange command).ending workspace.channel with
        ⟨cause | answer, channel⟩
      · simp only [asked] at ending
        cases ending
        exact .refused asked
      · simp only [asked] at ending
        cases ending
        exact .acknowledged asked

theorem PmuHalf.channel {model next : BuiltinModule} {workspace after : Workspace P}
    {ended : Except ModuleError Unit} (half : PmuHalf model workspace ended next after) :
    ∃ commands, after.channel = Channel.after commands workspace.channel := by
  cases half with
  | unbuilt missing => exact ⟨[], rfl⟩
  | silent => exact ⟨[], rfl⟩
  | @acknowledged command answer channel asked =>
    exact ⟨[command], by rw [Channel.after, List.foldl_cons, asked, List.foldl_nil]⟩
  | @refused command cause channel asked =>
    exact ⟨[command], by rw [Channel.after, List.foldl_cons, asked, List.foldl_nil]⟩

theorem PmuHalf.constructed {model next : BuiltinModule} {workspace after : Workspace P}
    {ended : Except ModuleError Unit} (half : PmuHalf model workspace ended next after)
    (constructed : model.Constructed) : next.Constructed := by
  cases half with
  | unbuilt missing => exact constructed
  | silent => exact constructed
  | acknowledged asked => exact constructed.programmed
  | refused asked => exact constructed

/-- With its model, the second half fails only where the unit refuses its command. -/
theorem PmuHalf.refusal {model next : BuiltinModule} {workspace after : Workspace P}
    {cause : ModuleError} (half : PmuHalf model workspace (.error cause) next after)
    (constructed : model.Constructed) :
    ∃ command refused, cause = .channel refused ∧
      (Channel.exchange command).ending workspace.channel = (.error refused, after.channel) := by
  cases half with
  | unbuilt missing => exact absurd constructed missing
  | refused asked => exact ⟨_, _, rfl, asked⟩

end BuiltinModule

namespace Support

variable {M P : Type}

/-- Every domain whose software half runs has a module, and that module fits. -/
def Equipped (fit : M → Prop) (support : Support M P) : Prop :=
  ∀ domain, SoftwareStep.domain domain ∈ Sequence.enabled support.capabilities Sequence.software →
    ∃ model, support.modules.get? domain = some model ∧ fit model

theorem Equipped.insert {fit : M → Prop} {support : Support M P} (equipped : Equipped fit support)
    {domain : Domain} {model next : M} (found : support.modules.get? domain = some model)
    (kept : fit model → fit next) (workspace : Workspace P) :
    Equipped fit { support with modules := support.modules.insert domain next, workspace } := by
  intro other member
  obtain ⟨there, present, fits⟩ := equipped other member
  by_cases same : domain = other
  · subst same
    obtain rfl : model = there := Option.some.inj (found.symm.trans present)
    exact ⟨next, DomainMap.get?_insert_self _ _ _, kept fits⟩
  · exact ⟨there, (DomainMap.get?_insert_of_ne _ _ same).trans present, fits⟩

theorem Equipped.withChannel {fit : M → Prop} {support : Support M P}
    (equipped : Equipped fit support) (channel : P) : Equipped fit (support.withChannel channel) :=
  equipped

variable [DomainModule M] [Channel P]

/-- Every software half that ends well leaves a module that fits. -/
def SoftwareBuilds (P : Type) [Channel P] (fit : M → Prop) : Prop :=
  ∀ (capabilities : Capabilities) (model next : M) (workspace after : Workspace P),
    (DomainModule.setUpSoftware capabilities).ending (model, workspace) = (.ok (), next, after) →
      fit next

/-- No second half, however it ends, changes a module that fits into one that does not. -/
def PmuKeeps (P : Type) [Channel P] (fit : M → Prop) : Prop :=
  ∀ (capabilities : Capabilities) (model next : M) (workspace after : Workspace P)
    (ended : Except ModuleError Unit),
    (DomainModule.setUpPmu capabilities).ending (model, workspace) = (ended, next, after) →
      fit model → fit next

/-- Steps that end well leave a module that fits for each of their domains, if every software
half leaves one. Later steps are for other modules or leave one that fits as well. -/
theorem Completes.equipped {fit : M → Prop} {support last : Support M P}
    {steps : List SoftwareStep} (completes : Completes support steps last)
    (builds : SoftwareBuilds P fit) :
    ∀ domain, SoftwareStep.domain domain ∈ steps →
      ∃ model, last.modules.get? domain = some model ∧ fit model := by
  induction completes with
  | nil support => exact fun domain member => absurd member List.not_mem_nil
  | @cons support next last step rest first others ih =>
    intro domain member
    by_cases again : SoftwareStep.domain domain ∈ rest
    · exact ih domain again
    · obtain rfl : step = .domain domain := by
        rcases List.mem_cons.mp member with same | later
        · exact same.symm
        · exact absurd later again
      rw [others.confined.modules domain again]
      cases first with
      | setUp found ended =>
        exact ⟨_, DomainMap.get?_insert_self _ _ _, builds _ _ _ _ _ ended⟩

theorem equipped_of_softwarePhase {fit : M → Prop} {start ready : Support M P}
    (ended : softwarePhase.ending start = (.ok (), ready))
    (builds : SoftwareBuilds P fit) :
    Equipped fit ready ∧ ready.lifecycle = .softwareReady := by
  have fresh : start.lifecycle = .uninitialized := by
    by_contra other
    rw [ending_softwarePhase, if_neg other] at ended
    cases ended
  obtain ⟨trace, last, run, rfl⟩ := softwareRun_of_ending fresh ended
  cases run with
  | complete waited completes =>
    refine ⟨fun domain member => completes.equipped builds domain ?_, rfl⟩
    exact completes.confined.capabilities ▸ member

theorem ending_pmuStep_domain (domain : Domain) (support : Support M P) :
    (pmuStep (.domain domain)).ending support = (setUp .pmu domain).ending support := by
  simp only [pmuStep, Attempt.ending_bind, ending_note]

theorem ending_pmuStep_load (which : Load) (support : Support M P) :
    (pmuStep (.load which)).ending support =
      let (answer, channel) := (Channel.exchange (.load which)).ending support.workspace.channel
      ((answer.mapError (.load which)).map fun _ => (), support.withChannel channel) := by
  simp only [pmuStep, Attempt.ending_bind, ending_note, Attempt.ending_record,
    Attempt.ending_mapError, ending_onChannel, Attempt.ending_pure]
  rcases (Channel.exchange (.load which)).ending support.workspace.channel with
    ⟨cause | answer, channel⟩ <;> rfl

/-- A step that may fail never does; all it leaves behind is what its module did, if it has one. -/
theorem ending_pmuStep_bestEffort (domain : Domain) (support : Support M P) :
    (pmuStep (.bestEffort domain)).ending support =
      (.ok (), ((setUp .pmu domain).ending support).2) := by
  cases found : support.modules.get? domain with
  | none => simp [pmuStep, DomainMap.contains, found, ending_setUp]
  | some model =>
    have present : support.modules.contains domain = true := by simp [DomainMap.contains, found]
    simp only [pmuStep, Attempt.ending_bind, Attempt.ending_get, present, ↓reduceIte,
      Attempt.ending_outcome]
    rcases (setUp .pmu domain).ending support with ⟨failure | ⟨⟨⟩⟩, after⟩
    · cases failure <;> rfl
    · rfl

theorem pmuSteps_failure {keeps : Support M P → Prop}
    (kept : ∀ step support, keeps support → keeps ((pmuStep step).ending support).2)
    {sequence : List (Gated PmuStep)} {support after : Support M P} {failure : Failure}
    (holds : keeps support) (ended : (pmuSteps sequence).ending support = (.error failure, after)) :
    ∃ gated ∈ sequence, ∃ before, keeps before ∧ gated.enabled before.capabilities = true ∧
      (pmuStep gated.step).ending before = (.error failure, after) := by
  induction sequence generalizing support with
  | nil => cases ended
  | cons gated rest ih =>
    cases on : gated.enabled support.capabilities with
    | false =>
      rw [ending_pmuSteps_of_disabled on] at ended
      obtain ⟨later, member, found⟩ := ih holds ended
      exact ⟨later, List.mem_cons_of_mem _ member, found⟩
    | true =>
      have next := kept gated.step support holds
      rw [ending_pmuSteps_of_enabled on] at ended
      rcases taken : (pmuStep gated.step).ending support with ⟨failed | ⟨⟨⟩⟩, between⟩
      · rw [taken] at ended
        cases ended
        exact ⟨gated, List.mem_cons_self, support, holds, on, taken⟩
      · rw [taken] at ended next
        obtain ⟨later, member, found⟩ := ih next ended
        exact ⟨later, List.mem_cons_of_mem _ member, found⟩

theorem Equipped.after_setUp {fit : M → Prop} {support : Support M P}
    (equipped : Equipped fit support)
    (keeps : PmuKeeps P fit) (domain : Domain) :
    Equipped fit ((setUp .pmu domain).ending support).2 := by
  rw [ending_setUp]
  cases found : support.modules.get? domain with
  | none => exact equipped
  | some model =>
    exact equipped.insert found (keeps support.capabilities model _ support.workspace _ _ rfl) _

/-- With all modules that are needed, a step that fails is a setup call that its module failed,
or a load that the unit refused. -/
theorem Equipped.pmuStep_failure {fit : M → Prop} {support after : Support M P}
    (equipped : Equipped fit support) {gated : Gated PmuStep} (member : gated ∈ Sequence.pmu)
    (on : gated.enabled support.capabilities = true) {failure : Failure}
    (ended : (pmuStep gated.step).ending support = (.error failure, after)) :
    (∃ domain model next cause, fit model ∧ failure = .setup domain .pmu cause ∧
      (DomainModule.setUpPmu support.capabilities).ending (model, support.workspace) =
        (.error cause, next, after.workspace)) ∨
    ∃ which cause, failure = .load which cause ∧
      (Channel.exchange (.load which)).ending support.workspace.channel =
        (.error cause, after.workspace.channel) := by
  cases same : gated.step with
  | bestEffort domain =>
    rw [same, ending_pmuStep_bestEffort] at ended
    cases ended
  | domain domain =>
    obtain ⟨model, found, fits⟩ := equipped domain (Sequence.software_of_pmu member on same)
    rw [same, ending_pmuStep_domain, ending_setUp] at ended
    simp only [found] at ended
    rcases half : (DomainModule.setUp .pmu support.capabilities).ending (model, support.workspace)
      with ⟨cause | ⟨⟨⟩⟩, next, workspace⟩
    · rw [half] at ended
      cases ended
      exact .inl ⟨domain, model, next, cause, fits, rfl, half⟩
    · rw [half] at ended
      cases ended
  | load which =>
    rw [same, ending_pmuStep_load] at ended
    rcases asked : (Channel.exchange (.load which)).ending support.workspace.channel with
      ⟨cause | answer, channel⟩
    · rw [asked] at ended
      cases ended
      exact .inr ⟨which, cause, rfl, asked⟩
    · rw [asked] at ended
      cases ended

theorem Equipped.after_pmuStep {fit : M → Prop} {support : Support M P}
    (equipped : Equipped fit support)
    (keeps : PmuKeeps P fit) (step : PmuStep) :
    Equipped fit ((pmuStep step).ending support).2 := by
  cases step with
  | bestEffort domain =>
    rw [ending_pmuStep_bestEffort]
    exact equipped.after_setUp keeps domain
  | domain domain =>
    rw [ending_pmuStep_domain]
    exact equipped.after_setUp keeps domain
  | load which =>
    rw [ending_pmuStep_load]
    exact equipped.withChannel _

theorem channel_pmuStep (step : PmuStep) (support : Support BuiltinModule P) :
    ∃ commands, ((pmuStep step).ending support).2.workspace.channel =
      Channel.after commands support.workspace.channel := by
  have setup (domain : Domain) : ∃ commands,
      ((setUp .pmu domain).ending support).2.workspace.channel =
        Channel.after commands support.workspace.channel := by
    rw [ending_setUp]
    cases support.modules.get? domain with
    | none => exact ⟨[], rfl⟩
    | some model =>
      rcases half : (DomainModule.setUp .pmu support.capabilities).ending
        (model, support.workspace) with ⟨ended, next, workspace⟩
      simp only [half]
      exact (BuiltinModule.pmuHalf_of_ending half).channel
  cases step with
  | bestEffort domain =>
    rw [ending_pmuStep_bestEffort]
    exact setup domain
  | domain domain =>
    rw [ending_pmuStep_domain]
    exact setup domain
  | load which =>
    rw [ending_pmuStep_load]
    exact ⟨[.load which], rfl⟩

theorem Equipped.pmuPhase_failure {fit : M → Prop} (keeps : Support M P → Prop)
    (kept : ∀ step support, keeps support → keeps ((pmuStep step).ending support).2)
    (equips : ∀ support, keeps support → Equipped fit support) {support after : Support M P}
    (holds : keeps support) (ready : support.lifecycle = .softwareReady) {failure : Failure}
    (ended : pmuPhase.ending support = (.error failure, after)) :
    ∃ before, keeps before ∧
      ((∃ domain model next cause, fit model ∧ failure = .setup domain .pmu cause ∧
        (DomainModule.setUpPmu before.capabilities).ending (model, before.workspace) =
          (.error cause, next, after.workspace)) ∨
      ∃ which cause, failure = .load which cause ∧
        (Channel.exchange (.load which)).ending before.workspace.channel =
          (.error cause, after.workspace.channel)) := by
  rw [ending_pmuPhase, if_pos ready, ending_finish] at ended
  rcases run : (pmuSteps Sequence.pmu).ending support with ⟨failed | ⟨⟨⟩⟩, last⟩
  · rw [run] at ended
    cases ended
    obtain ⟨gated, member, before, held, on, taken⟩ := pmuSteps_failure kept holds run
    have fails := (equips before held).pmuStep_failure member on taken
    exact ⟨before, held, fails⟩
  · rw [run] at ended
    cases ended

/-- A second phase behind a complete software phase, over whatever channel there is by then. It
never misses a module. If all modules are built-in ones, under whatever domains, none of them is
without its model either: every failure is the unit's own answer to a command, and the last thing
that the phase did was to send that command. -/
theorem pmuPhase_refusals :
    (∀ {M : Type} [DomainModule M] (start : Support M P) (channel : P),
      (softwarePhase.run start).value = .ok () →
      ∀ domain, (pmuPhase.run ((softwarePhase.run start).state.withChannel channel)).value ≠
        .error (.missingDomain domain)) ∧
    ∀ (start : Support BuiltinModule P) (channel : P),
      (softwarePhase.run start).value = .ok () →
      let phase := pmuPhase.run ((softwarePhase.run start).state.withChannel channel)
      ∀ failure, phase.value = .error failure →
        (∀ domain half, failure ≠ .setup domain half .notConstructed) ∧
        ∃ commands command cause,
          (Channel.exchange command).ending (Channel.after commands channel) =
            (.error cause, phase.state.workspace.channel) ∧
          ((∃ which, command = .load which ∧ failure = .load which cause) ∨
            ∃ domain, failure = .setup domain .pmu (.channel cause)) := by
  constructor
  · intro M _ start channel succeeded domain missed
    have ended : softwarePhase.ending start = (.ok (), (softwarePhase.run start).state) :=
      Attempt.ending_of_value succeeded
    have builds : SoftwareBuilds P fun _ : M => True := fun _ _ _ _ _ _ => trivial
    have keeps : PmuKeeps P fun _ : M => True := fun _ _ _ _ _ _ _ => id
    obtain ⟨equipped, ready⟩ := equipped_of_softwarePhase ended builds
    obtain ⟨before, _, ⟨_, _, _, _, _, same, _⟩ | ⟨_, _, same, _⟩⟩ :=
      Equipped.pmuPhase_failure (Equipped fun _ => True)
        (fun step support held => held.after_pmuStep keeps step)
        (fun _ => id) (equipped.withChannel channel) ready (Attempt.ending_of_value missed)
    · cases same
    · cases same
  · intro start channel succeeded phase failure failed
    have ended : softwarePhase.ending start = (.ok (), (softwarePhase.run start).state) :=
      Attempt.ending_of_value succeeded
    have builds : SoftwareBuilds P BuiltinModule.Constructed := fun _ _ _ _ _ =>
      BuiltinModule.constructed_of_setUpSoftware
    have preserves : PmuKeeps P BuiltinModule.Constructed := fun _ _ _ _ _ _ half =>
      (BuiltinModule.pmuHalf_of_ending half).constructed
    obtain ⟨equipped, ready⟩ := equipped_of_softwarePhase ended builds
    let keeps (support : Support BuiltinModule P) : Prop :=
      Equipped BuiltinModule.Constructed support ∧
        ∃ commands, support.workspace.channel = Channel.after commands channel
    have kept (step : PmuStep) (support : Support BuiltinModule P) (held : keeps support) :
        keeps ((pmuStep step).ending support).2 := by
      obtain ⟨equipped, commands, asked⟩ := held
      obtain ⟨more, next⟩ := channel_pmuStep step support
      refine ⟨equipped.after_pmuStep preserves step, commands ++ more, ?_⟩
      rw [next, asked, Channel.after_append]
    obtain ⟨before, ⟨_, commands, asked⟩, cases⟩ :=
      Equipped.pmuPhase_failure keeps kept (fun _ held => held.1)
        ⟨equipped.withChannel channel, [], rfl⟩ ready (Attempt.ending_of_value failed)
    rcases cases with ⟨domain, model, next, cause, built, rfl, half⟩ | ⟨which, cause, rfl, answered⟩
    · obtain ⟨command, refused, rfl, answered⟩ :=
        (BuiltinModule.pmuHalf_of_ending half).refusal built
      exact ⟨fun _ _ => by simp, commands, command, refused, asked ▸ answered, .inr ⟨domain, rfl⟩⟩
    · exact ⟨fun _ _ => by simp, commands, .load which, cause, asked ▸ answered,
        .inl ⟨which, rfl, rfl⟩⟩

/-- An unknown capability bit and a model of objects in the place of the clock domains change
nothing: the phase ends at the load that the unit refuses. -/
theorem pmuPhase_refusals_of_load :
    let config : Config := Config.empty
    let modules := (ModuleTable.builtin config).insert .clkDomain (.objects (.start .voltRail 2))
    let start := Support.start ⟨0x81⟩ modules Loopback.accepting
      (some [0x50, 10, 2, 1, 6, 0, 0, 0, 0, 0, 15, 0])
    let channel : Loopback := ⟨true, [(.load .vfe, 9)], []⟩
    let phase := pmuPhase.run ((softwarePhase.run start).state.withChannel channel)
    (softwarePhase.run start).value = .ok () ∧
      phase.value = .error (.load .vfe (.rejected (some 9))) ∧
      (∀ domain, phase.value ≠ .error (.missingDomain domain)) ∧
      ∃ commands, (Channel.exchange (.load .vfe)).ending (Channel.after commands channel) =
        (.error (.rejected (some 9)), phase.state.workspace.channel) := by
  intro config modules start channel phase
  have succeeded : (softwarePhase.run start).value = .ok () := by decide +kernel
  have refused : phase.value = .error (.load .vfe (.rejected (some 9))) := by decide +kernel
  refine ⟨succeeded, refused, pmuPhase_refusals.1 start channel succeeded, ?_⟩
  obtain ⟨_, commands, command, cause, answered, ⟨which, sent, same⟩ | ⟨domain, same⟩⟩ :=
    pmuPhase_refusals.2 start channel succeeded _ refused
  · obtain ⟨load, refusal⟩ := Failure.load.inj same
    rw [sent, ← load, ← refusal] at answered
    exact ⟨commands, by simpa only [phase] using answered⟩
  · cases same

end Support

end PerfStates
