import PerfStates.Proofs.Bringup.Complete

/-! How a bring-up depends on the capabilities of the device, over the modules that come with the
library. More capabilities enable more steps and change none of the others; bits without a
meaning change nothing. -/

namespace PerfStates

namespace Capabilities

variable {lesser greater one other : Capabilities} {capability : Capability}

theorem contains_of_subset (within : lesser.bits &&& greater.bits = lesser.bits)
    (there : lesser.contains capability = true) : greater.contains capability = true := by
  rw [contains, bne_iff_ne] at there ⊢
  intro absent
  apply there
  rw [← within, UInt32.and_assoc, absent, UInt32.and_zero]

theorem contains_known (set : Capabilities) (capability : Capability) :
    set.known.contains capability = set.contains capability := by
  have part : (ofList Capability.all).bits &&& capability.bit = capability.bit := by
    cases capability <;> rfl
  rw [contains, known, UInt32.and_assoc, part, contains]

/-- The known bits tell every capability. -/
theorem contains_congr (same : one.known = other.known) (capability : Capability) :
    one.contains capability = other.contains capability := by
  rw [← contains_known, same, contains_known]

end Capabilities

section Sequence

variable {α : Type} {lesser greater one other : Capabilities}

theorem Gated.enabled_of_subset (within : lesser.bits &&& greater.bits = lesser.bits)
    {gated : Gated α} (on : gated.enabled lesser = true) : gated.enabled greater = true := by
  rw [enabled, List.all_eq_true] at on ⊢
  intro capability needed
  exact Capabilities.contains_of_subset within (on capability needed)

theorem Gated.enabled_congr (same : one.known = other.known) (gated : Gated α) :
    gated.enabled one = gated.enabled other := by
  have told := funext fun capability => Capabilities.contains_congr same capability
  rw [enabled, enabled, told]

theorem Sequence.enabled_sublist_of_subset
    (within : lesser.bits &&& greater.bits = lesser.bits) (sequence : List (Gated α)) :
    (Sequence.enabled lesser sequence).Sublist (Sequence.enabled greater sequence) :=
  (List.monotone_filter_right sequence fun _ => Gated.enabled_of_subset within).map Gated.step

end Sequence

namespace Support

section Alike

variable {M P : Type}

/-- Subsystems that are the same up to capability bits without a meaning. -/
structure Alike (one other : Support M P) : Prop where
  known : one.capabilities.known = other.capabilities.known
  modules : one.modules = other.modules
  workspace : one.workspace = other.workspace
  registry : one.registry = other.registry
  image : one.image = other.image
  lifecycle : one.lifecycle = other.lifecycle

/-- Two runs that end the same and leave such subsystems. -/
structure EndAlike {α : Type} (first second : Except Failure α × Support M P) : Prop where
  value : first.1 = second.1
  support : Alike first.2 second.2

theorem Alike.withChannel {one other : Support M P} (alike : Alike one other) (channel : P) :
    Alike (one.withChannel channel) (other.withChannel channel) :=
  { alike with workspace := by rw [Support.withChannel, Support.withChannel, alike.workspace] }

theorem Alike.sent {one other : Support M Loopback} (alike : Alike one other) :
    one.workspace.channel.sent = other.workspace.channel.sent := by
  rw [alike.workspace]

theorem EndAlike.run {α : Type} {one other : Support M P} {attempt : Step M P α}
    (alike : EndAlike (attempt.ending one) (attempt.ending other)) :
    (attempt.run one).value = (attempt.run other).value ∧
      Alike (attempt.run one).state (attempt.run other).state :=
  ⟨alike.value, alike.support⟩

theorem EndAlike.finish {one other : Support M P} {run : Step M P Unit}
    (alike : EndAlike (run.ending one) (run.ending other)) (phase : Phase) (done : Lifecycle) :
    EndAlike ((finish phase done run).ending one) ((finish phase done run).ending other) := by
  rw [ending_finish, ending_finish]
  exact ⟨alike.value, { alike.support with lifecycle := by rw [alike.value] }⟩

end Alike

section Builtin

variable {P : Type} [Channel P] {one other : Support BuiltinModule P}

/-- The modules that come with the library do not look at the capabilities. -/
theorem setUp_eq (phase : Phase) (first second : Capabilities) :
    (DomainModule.setUp phase first :
      Attempt Message (BuiltinModule × Workspace P) ModuleError Unit) =
      DomainModule.setUp phase second := by
  cases phase <;> rfl

theorem Alike.setUp (alike : Alike one other) (phase : Phase) (domain : Domain) :
    EndAlike ((setUp phase domain).ending one) ((setUp phase domain).ending other) := by
  rw [ending_setUp, ending_setUp, alike.modules, alike.workspace,
    setUp_eq phase one.capabilities other.capabilities]
  cases other.modules.get? domain with
  | none => exact ⟨rfl, alike⟩
  | some model => exact ⟨rfl, { alike with modules := rfl, workspace := rfl }⟩

theorem Alike.softwareStep (alike : Alike one other) (step : SoftwareStep) :
    EndAlike ((softwareStep step).ending one) ((softwareStep step).ending other) := by
  cases step with
  | domain domain =>
    simp only [Support.softwareStep, Attempt.ending_bind, ending_note]
    exact alike.setUp .software domain
  | table =>
    simp only [Support.softwareStep, Attempt.ending_bind, ending_note, Attempt.ending_get,
      Attempt.ending_relay, Registry.ending_ofFirmware, alike.workspace, alike.image]
    cases Registry.decoded other.workspace.clocks other.image with
    | error failure => exact ⟨rfl, alike⟩
    | ok registry => exact ⟨rfl, { alike with registry := rfl }⟩

theorem Alike.softwareSteps (alike : Alike one other) (foundations : List Domain)
    (sequence : List (Gated SoftwareStep)) :
    EndAlike ((softwareSteps foundations sequence).ending one)
      ((softwareSteps foundations sequence).ending other) := by
  induction sequence generalizing foundations one other with
  | nil => exact ⟨rfl, alike⟩
  | cons gated rest ih =>
    have same := Gated.enabled_congr alike.known gated
    cases on : gated.enabled one.capabilities with
    | false =>
      rw [(softwareSteps_of_disabled on foundations rest).1,
        (softwareSteps_of_disabled (same ▸ on) foundations rest).1]
      exact ih alike foundations
    | true =>
      obtain ⟨value, support⟩ := alike.softwareStep gated.step
      rcases first : (Support.softwareStep gated.step).ending one with ⟨ended, next⟩
      rcases second : (Support.softwareStep gated.step).ending other with ⟨also, there⟩
      rw [first, second] at value support
      obtain rfl : ended = also := value
      cases ended with
      | ok value =>
        rw [(softwareSteps_of_ok on first foundations rest).1,
          (softwareSteps_of_ok (same ▸ on) second foundations rest).1]
        exact ih support _
      | error failure =>
        rw [ending_softwareSteps_of_error on first, ending_softwareSteps_of_error (same ▸ on) second]
        exact ⟨rfl, { support with modules := by rw [support.modules] }⟩

theorem Alike.pmuStep (alike : Alike one other) (step : PmuStep) :
    EndAlike ((pmuStep step).ending one) ((pmuStep step).ending other) := by
  cases step with
  | bestEffort domain =>
    simp only [Support.pmuStep, Attempt.ending_bind, Attempt.ending_get, alike.modules]
    cases other.modules.contains domain with
    | false => exact ⟨rfl, alike⟩
    | true =>
      obtain ⟨value, support⟩ := alike.setUp .pmu domain
      simp only [↓reduceIte, Attempt.ending_bind, Attempt.ending_outcome, value]
      split
      · exact ⟨rfl, support⟩
      · exact ⟨rfl, support⟩
  | domain domain =>
    simp only [Support.pmuStep, Attempt.ending_bind, ending_note]
    exact alike.setUp .pmu domain
  | load which =>
    simp only [Support.pmuStep, Attempt.ending_bind, ending_note, Attempt.ending_record,
      Attempt.ending_mapError, ending_onChannel, alike.workspace]
    rcases (Channel.exchange (.load which)).ending other.workspace.channel with
      ⟨_ | answer, channel⟩
    · exact ⟨rfl, alike.withChannel channel⟩
    · exact ⟨rfl, alike.withChannel channel⟩

theorem Alike.pmuSteps (alike : Alike one other) (sequence : List (Gated PmuStep)) :
    EndAlike ((pmuSteps sequence).ending one) ((pmuSteps sequence).ending other) := by
  induction sequence generalizing one other with
  | nil => exact ⟨rfl, alike⟩
  | cons gated rest ih =>
    have same := Gated.enabled_congr alike.known gated
    cases on : gated.enabled one.capabilities with
    | false =>
      rw [ending_pmuSteps_of_disabled on, ending_pmuSteps_of_disabled (same ▸ on)]
      exact ih alike
    | true =>
      rw [ending_pmuSteps_of_enabled on, ending_pmuSteps_of_enabled (same ▸ on)]
      obtain ⟨value, support⟩ := alike.pmuStep gated.step
      generalize (Support.pmuStep gated.step).ending one = first at value support
      generalize (Support.pmuStep gated.step).ending other = second at value support
      obtain ⟨ended, next⟩ := first
      obtain ⟨also, there⟩ := second
      obtain rfl : ended = also := value
      cases ended with
      | ok value => exact ih support
      | error failure => exact ⟨rfl, support⟩

theorem Alike.runSoftware (alike : Alike one other) :
    EndAlike (runSoftware.ending one) (runSoftware.ending other) := by
  simp only [Support.runSoftware, Attempt.ending_bind, Attempt.ending_mapError, ending_onChannel,
    alike.workspace]
  rcases Channel.waitReady.ending other.workspace.channel with ⟨_ | answer, channel⟩
  · exact ⟨rfl, alike.withChannel channel⟩
  · exact (alike.withChannel channel).softwareSteps [] Sequence.software

theorem Alike.softwarePhase (alike : Alike one other) :
    EndAlike (softwarePhase.ending one) (softwarePhase.ending other) := by
  rw [ending_softwarePhase, ending_softwarePhase, alike.lifecycle]
  split
  · exact alike.runSoftware.finish _ _
  · exact ⟨rfl, alike⟩

theorem Alike.pmuPhase (alike : Alike one other) :
    EndAlike (pmuPhase.ending one) (pmuPhase.ending other) := by
  rw [ending_pmuPhase, ending_pmuPhase, alike.lifecycle]
  split
  · exact (alike.pmuSteps Sequence.pmu).finish _ _
  · exact ⟨rfl, alike⟩

end Builtin

section Fewer

variable {config less : Config} {image : Option (List UInt8)}
  (same : less = { config with capabilities := less.capabilities })
  (within : less.capabilities.bits &&& config.capabilities.bits = less.capabilities.bits)

include same in
theorem failure?_eq_of_same (step : SoftwareStep) :
    less.failure? image step = config.failure? image step := by
  rw [same]
  exact Config.failure?_congr rfl fun _ _ _ => rfl

include same within in
/-- With fewer capabilities, the unit is sent some of the same commands, in the same order. -/
theorem commands_sublist_of_same (sequence : List (Gated PmuStep)) :
    (less.commands sequence).Sublist (config.commands sequence) := by
  have commands : less.command? = config.command? := by
    rw [same]
    rfl
  rw [Config.commands, commands]
  exact (Sequence.enabled_sublist_of_subset within sequence).filterMap _

include same in
/-- Complete bring-ups leave the registry that the configured clocks and the image decide. -/
theorem registry_eq_of_same {P : Type} {first second : Support BuiltinModule P}
    (built : Built less image first) (also : Built config image second) :
    ∃ registry, first.registry = some registry ∧ second.registry = some registry := by
  obtain ⟨registry, here, decoded⟩ := built.registry
  obtain ⟨registry', there, decoded'⟩ := also.registry
  have clocks : less.clocks = config.clocks := by rw [same]
  rw [also.clocks, ← clocks, ← built.clocks, decoded] at decoded'
  cases decoded'
  exact ⟨registry, here, there⟩

variable (config less) in
include same within in
theorem phases_of_same {loopback : Loopback} (awake : loopback.ready = true)
    (first : (softwarePhase.run (ofConfig config loopback image)).value = .ok ())
    (second : (pmuPhase.run
      (softwarePhase.run (ofConfig config loopback image)).state).value = .ok ()) :
    (softwarePhase.run (ofConfig less loopback image)).value = .ok () ∧
    (pmuPhase.run (softwarePhase.run (ofConfig less loopback image)).state).value = .ok () ∧
    (∃ registry,
      (pmuPhase.run (softwarePhase.run (ofConfig less loopback image)).state).state.registry =
        some registry ∧
      (pmuPhase.run (softwarePhase.run (ofConfig config loopback image)).state).state.registry =
        some registry) ∧
    (pmuPhase.run (softwarePhase.run
      (ofConfig less loopback image)).state).state.workspace.channel.sent.Sublist
      (pmuPhase.run (softwarePhase.run
        (ofConfig config loopback image)).state).state.workspace.channel.sent := by
  obtain ⟨steps, commands⟩ := free_of_phases awake first second
  obtain ⟨_, _, all, most⟩ := phases_of_free awake steps commands
  have fewer := commands_sublist_of_same same within Sequence.pmu
  have part := (Sequence.enabled_sublist_of_subset within Sequence.software).subset
  obtain ⟨value, also, some, sent⟩ := phases_of_free awake
    (fun step member => (failure?_eq_of_same same step).trans (steps step (part member)))
    (fun command member => commands command (fewer.subset member))
  refine ⟨value, also, registry_eq_of_same same some all, ?_⟩
  rw [sent, most]
  exact fewer.append_left loopback.sent

end Fewer

theorem start_builtin {P : Type} (config : Config) (capabilities : Capabilities) (channel : P)
    (image : Option (List UInt8)) :
    start capabilities (ModuleTable.builtin config) channel image =
      ofConfig { config with capabilities } channel image := rfl

/-- Capabilities only add work. Whatever the configuration, the image and the failures of a ready
loopback: if both phases end well, then so they do with any capabilities among the given ones, the
registry is the same, and the commands that the unit is sent are some of the same commands, in the
same order. And capabilities that differ in bits without a meaning only make no difference to how
either phase ends, to the commands or to the registry, be the phases complete or not. -/
theorem bringUp_monotone (config : Config) (image : Option (List UInt8))
    (failures : List (Target × UInt32)) :
    let fresh (capabilities : Capabilities) : Support BuiltinModule Loopback :=
      start capabilities (ModuleTable.builtin config) ⟨true, failures, []⟩ image
    let software (capabilities : Capabilities) := softwarePhase.run (fresh capabilities)
    let pmu (capabilities : Capabilities) := pmuPhase.run (software capabilities).state
    (∀ lesser greater : Capabilities, lesser.bits &&& greater.bits = lesser.bits →
      (software greater).value = .ok () → (pmu greater).value = .ok () →
      (software lesser).value = .ok () ∧ (pmu lesser).value = .ok () ∧
      (∃ registry, (pmu lesser).state.registry = some registry ∧
        (pmu greater).state.registry = some registry) ∧
      (pmu lesser).state.workspace.channel.sent.Sublist
        (pmu greater).state.workspace.channel.sent) ∧
    ∀ one other : Capabilities, one.known = other.known →
      (software one).value = (software other).value ∧
      (software one).state.registry = (software other).state.registry ∧
      (software one).state.workspace.channel.sent =
        (software other).state.workspace.channel.sent ∧
      (pmu one).value = (pmu other).value ∧
      (pmu one).state.registry = (pmu other).state.registry ∧
      (pmu one).state.workspace.channel.sent = (pmu other).state.workspace.channel.sent := by
  intro fresh software pmu
  constructor
  · intro lesser greater within first second
    simp only [software, pmu, fresh, start_builtin] at first second ⊢
    exact phases_of_same { config with capabilities := greater }
      { config with capabilities := lesser } rfl within rfl first second
  · intro one other same
    have alike : Alike (fresh one) (fresh other) := ⟨same, rfl, rfl, rfl, rfl, rfl⟩
    obtain ⟨value, ready⟩ := alike.softwarePhase.run
    obtain ⟨value', done⟩ := ready.pmuPhase.run
    simp only [software, pmu]
    exact ⟨value, ready.registry, ready.sent, value', done.registry, done.sent⟩

/-- A rejected load that neither set of capabilities asks for does no harm, nor does a bit without
a meaning. The one capability adds three commands, two in the midst of the others. -/
theorem bringUp_monotone_of_vfe :
    let config : Config := { Config.empty with memoryClock := true }
    let image : Option (List UInt8) := some [0x50, 10, 2, 1, 6, 0, 0, 0, 0, 0, 15, 0]
    let fresh (capabilities : Capabilities) : Support BuiltinModule Loopback :=
      start capabilities (ModuleTable.builtin config) ⟨true, [(.load .clkDomains, 7)], []⟩ image
    let pmu (capabilities : Capabilities) :=
      pmuPhase.run (softwarePhase.run (fresh capabilities)).state
    let small := (SlotMask.empty 32).set 0
    let large := (SlotMask.empty 255).set 0
    let front : List Command := [.initMemoryClock, .setGroup .voltRail small,
      .setGroup .voltDev small, .setGroup .voltPolicy small, .load .volt,
      .setGroup .thermDomain small]
    let back : List Command := [.setGroup .clkDomain (SlotMask.empty 32), .setGroup .clkProg small,
      .setGroup .clkVin small, .setGroup .clkFll small, .load .clkVin]
    (pmu ⟨1⟩).value = .ok () ∧ (pmu .none).value = .ok () ∧
    (∃ registry, (pmu .none).state.registry = some registry ∧
      (pmu ⟨1⟩).state.registry = some registry) ∧
    (pmu .none).state.workspace.channel.sent = front ++ back ∧
    (pmu ⟨1⟩).state.workspace.channel.sent =
      front ++ [.setGroup .vfeVar large, .setGroup .vfeEqu large] ++ back ++ [.load .vfe] ∧
    (pmu .none).state.workspace.channel.sent.Sublist (pmu ⟨1⟩).state.workspace.channel.sent ∧
    (pmu ⟨0x81⟩).state.workspace.channel.sent = (pmu ⟨1⟩).state.workspace.channel.sent := by
  intro config image fresh pmu small large front back
  have first : (softwarePhase.run (fresh ⟨1⟩)).value = .ok () :=
    eq_ok_of_toOption (by decide +kernel)
  have second : (pmu ⟨1⟩).value = .ok () := eq_ok_of_toOption (by decide +kernel)
  have fewer : (pmu .none).state.workspace.channel.sent = front ++ back := by decide +kernel
  have more : (pmu ⟨1⟩).state.workspace.channel.sent =
      front ++ [.setGroup .vfeVar large, .setGroup .vfeEqu large] ++ back ++ [.load .vfe] := by
    decide +kernel
  have outcome := bringUp_monotone config image [(.load .clkDomains, 7)]
  -- Spelled out, the runs are told apart by their starts and never evaluated.
  simp only [pmu, fresh] at first second fewer more outcome ⊢
  obtain ⟨_, value, registry, sent⟩ := outcome.1 .none ⟨1⟩ rfl first second
  obtain ⟨_, _, _, _, _, same⟩ := outcome.2 ⟨0x81⟩ ⟨1⟩ rfl
  exact ⟨second, value, registry, fewer, more, sent, same⟩

end Support

end PerfStates
