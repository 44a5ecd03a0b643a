import PerfStates.Proofs.Bringup.Built

namespace PerfStates

namespace Config

/-- The failure of a step of the software phase, if it cannot be taken: the obstacle to setting
up its domain, or the error of decoding the table against the configured clock domains. -/
def failure? (config : Config) (image : Option (List UInt8)) : SoftwareStep → Option Failure
  | .domain domain => (config.obstacle? domain).map (.setup domain .software)
  | .table =>
    match Registry.decoded (Group.filled Group.smallCapacity config.clocks) image with
    | .ok _ => none
    | .error failure => some failure

variable {config other : Config} {image : Option (List UInt8)}

theorem failure?_table_eq_none_iff : config.failure? image .table = none ↔
    ∃ registry,
      Registry.decoded (Group.filled Group.smallCapacity config.clocks) image = .ok registry := by
  rw [failure?]
  cases Registry.decoded (Group.filled Group.smallCapacity config.clocks) image with
  | ok registry => simp
  | error failure => simp

/-- The three ways in which a step cannot be taken. -/
theorem failure?_eq_some_iff {step : SoftwareStep} {failure : Failure} :
    config.failure? image step = some failure ↔
      (∃ domain, step = .domain domain ∧ domain.isObjectModel = true ∧
        ObjectDomain.capacity domain < config.objectCount domain ∧
        failure = .setup domain .software (.invalid
          s!"{config.objectCount domain} objects exceed group capacity {ObjectDomain.capacity domain}")) ∨
      (step = .domain .clkDomain ∧ Group.smallCapacity < config.clocks.length ∧
        failure = .setup .clkDomain .software
          (.group (.outOfRange Group.smallCapacity Group.smallCapacity))) ∨
      (step = .table ∧
        Registry.decoded (Group.filled Group.smallCapacity config.clocks) image =
          .error failure) := by
  cases step with
  | table =>
    rw [failure?]
    cases Registry.decoded (Group.filled Group.smallCapacity config.clocks) image with
    | ok registry => simp
    | error cause => simp
  | domain domain =>
    rw [failure?, Option.map_eq_some_iff]
    constructor
    · rintro ⟨cause, stopped, rfl⟩
      rcases obstacle?_eq_some_iff.mp stopped with ⟨live, more, rfl⟩ | ⟨rfl, more, rfl⟩
      · exact .inl ⟨domain, rfl, live, more, rfl⟩
      · exact .inr (.inl ⟨rfl, more, rfl⟩)
    · rintro (⟨_, same, live, more, rfl⟩ | ⟨same, more, rfl⟩ | ⟨same, _⟩)
      · cases same
        exact ⟨_, obstacle?_eq_some_iff.mpr (.inl ⟨live, more, rfl⟩), rfl⟩
      · cases same
        exact ⟨_, obstacle?_eq_some_iff.mpr (.inr ⟨rfl, more, rfl⟩), rfl⟩
      · cases same

/-- Only the clock domains and the object count of its own domain decide about a step. -/
theorem failure?_congr (clocks : other.clocks = config.clocks) {step : SoftwareStep}
    (counts : ∀ domain, step = .domain domain → domain.isObjectModel = true →
      other.objectCount domain = config.objectCount domain) :
    other.failure? image step = config.failure? image step := by
  cases step with
  | table => rw [failure?, failure?, clocks]
  | domain domain =>
    have same : other.obstacle? domain = config.obstacle? domain := by
      cases live : domain.isObjectModel with
      | true => simp only [obstacle?, clocks, counts domain rfl live]
      | false => simp [obstacle?, clocks, live]
    rw [failure?, failure?, same]

theorem forall_failure?_eq_none_iff :
    (∀ step ∈ Sequence.enabled config.capabilities Sequence.software,
      config.failure? image step = none) ↔
      (∀ domain, domain.isObjectModel = true →
        SoftwareStep.domain domain ∈ Sequence.enabled config.capabilities Sequence.software →
        config.objectCount domain ≤ ObjectDomain.capacity domain) ∧
      config.clocks.length ≤ Group.smallCapacity ∧
      ∃ registry,
        Registry.decoded (Group.filled Group.smallCapacity config.clocks) image = .ok registry := by
  constructor
  · intro free
    have domains (domain : Domain) (enabled : SoftwareStep.domain domain ∈
        Sequence.enabled config.capabilities Sequence.software) :
        config.obstacle? domain = none := by
      have passed := free _ enabled
      rwa [failure?, Option.map_eq_none_iff] at passed
    refine ⟨?_, ?_, ?_⟩
    · intro domain live enabled
      exact (obstacle?_eq_none_iff.mp (domains domain enabled)).1 live
    · have clear := domains .clkDomain Sequence.clkDomain_mem_software
      exact (obstacle?_eq_none_iff.mp clear).2 rfl
    · exact failure?_table_eq_none_iff.mp (free .table Sequence.table_mem_software)
  · rintro ⟨objects, clocks, decoded⟩ step enabled
    cases step with
    | table => exact failure?_table_eq_none_iff.mpr decoded
    | domain domain =>
      have clear : config.obstacle? domain = none :=
        obstacle?_eq_none_iff.mpr
          ⟨fun live => objects domain live enabled, fun _ => clocks⟩
      rw [failure?, clear, Option.map_none]

end Config

namespace Support

variable {P : Type} {config : Config} {image : Option (List UInt8)}
  {channel woken : P} {done : List SoftwareStep} {support : Support BuiltinModule P}

theorem Prepared.failure?_eq_none (prepared : Prepared config image channel done support)
    {step : SoftwareStep} (member : step ∈ done) : config.failure? image step = none := by
  cases step with
  | domain domain => rw [Config.failure?, prepared.free_of_obstacles domain member, Option.map_none]
  | table =>
    obtain ⟨registry, _, decoded⟩ := prepared.decoded member
    exact Config.failure?_table_eq_none_iff.mpr ⟨registry, decoded⟩

variable [Channel P]

theorem Prepared.failure?_eq_some (prepared : Prepared config image channel done support)
    {step : SoftwareStep} (fresh : step ∉ done) (present : step ≠ .domain .mclk)
    (ordered : step = .table → SoftwareStep.domain .clkDomain ∈ done) {failure : Failure}
    {made : List Event} {after : Support BuiltinModule P}
    (fails : StepFails support step failure made after) :
    config.failure? image step = some failure := by
  cases fails with
  | @missing domain absent =>
    rw [prepared.modules, if_neg fresh] at absent
    exact absurd (congrArg _ (ModuleTable.eq_mclk_of_initial?_eq_none absent)) present
  | setUp found ended =>
    obtain ⟨obstacle, _⟩ := prepared.of_setUp_error fresh found ended
    rw [Config.failure?, obstacle, Option.map_some]
  | table refused =>
    rw [prepared.clocks, if_pos (ordered rfl), prepared.firmware] at refused
    simp only [Config.failure?, refused]

/-- With the unit ready, the software phase ends with the failure of the first enabled step that
cannot be taken, and well if there is none. -/
theorem value_softwarePhase
    (ready : (Channel.waitReady : Attempt Message P ChannelError Unit).ending channel =
      (.ok (), woken)) :
    (softwarePhase.run (ofConfig config channel image)).value =
      match (Sequence.enabled config.capabilities Sequence.software).findSome?
        (config.failure? image) with
      | none => .ok ()
      | some failure => .error failure := by
  obtain ⟨after, run, _⟩ := softwarePhase_outcome (ofConfig config channel image) rfl
  have same : (softwarePhase.ending (ofConfig config channel image)).1 =
      (softwarePhase.run (ofConfig config channel image)).value := rfl
  rw [same] at run
  generalize (softwarePhase.run (ofConfig config channel image)).value = value at run ⊢
  generalize softwarePhase.made (ofConfig config channel image) = trace at run
  cases run with
  | notReady waited =>
    rw [channel_ofConfig, ready] at waited
    cases waited
  | complete waited completes =>
    rw [withChannel_ofConfig, capabilities_ofConfig] at completes
    have prepared := prepared_of_completes (List.append_nil _).symm completes
    have free : (Sequence.enabled config.capabilities Sequence.software).findSome?
        (config.failure? image) = none := by
      rw [List.findSome?_eq_none_iff]
      intro step member
      exact prepared.failure?_eq_none member
    rw [free]
  | @failed _ done rest step before after failure made waited steps completes fails =>
    rw [withChannel_ofConfig] at completes
    rw [capabilities_ofConfig] at steps
    have prepared := prepared_of_completes steps completes
    obtain ⟨fresh, present, ordered⟩ := Sequence.step_of_software steps
    have free : done.findSome? (config.failure? image) = none := by
      rw [List.findSome?_eq_none_iff]
      intro earlier taken
      exact prepared.failure?_eq_none taken
    have stopped := prepared.failure?_eq_some fresh present ordered fails
    rw [steps, List.findSome?_append, free, Option.none_or, List.findSome?_cons, stopped]

theorem get?_built (domain : Domain) (count slot : Nat) :
    (ObjectDomain.built domain count).get? slot = if slot < count then some ⟨slot⟩ else none := by
  rw [ObjectDomain.built, Group.get?_filled, List.getElem?_map]
  by_cases below : slot < count
  · rw [List.getElem?_range below, if_pos below, Option.map_some]
  · have past : (List.range count)[slot]? = none := by
      rw [List.getElem?_eq_none_iff, List.length_range]
      exact Nat.le_of_not_lt below
    rw [past, if_neg below, Option.map_none]

/-- The exact outcome of the software phase of a subsystem made from any configuration, consistent
or not, with the unit ready. It ends well exactly if every enabled domain has room for its objects,
there is room for the clock domains and the table decodes against them; otherwise the first enabled
step that cannot be taken, for one of these reasons, gives the failure. Object counts of domains
that are not enabled make no difference. Once it ended well, every enabled domain of objects holds
one for each number below its count, in the slot of that number. -/
theorem softwarePhase_verdict (config : Config) (image : Option (List UInt8)) (channel woken : P)
    (ready : (Channel.waitReady : Attempt Message P ChannelError Unit).ending channel =
      (.ok (), woken)) :
    let phase := softwarePhase.run (ofConfig config channel image)
    let steps := Sequence.enabled config.capabilities Sequence.software
    let clocks := Group.filled 32 config.clocks
    let capacity := fun domain : Domain => if domain = .vfeVar ∨ domain = .vfeEqu then 255 else 32
    (phase.value = .ok () ↔
      (∀ domain, domain.isObjectModel = true → .domain domain ∈ steps →
        config.objectCount domain ≤ capacity domain) ∧
      config.clocks.length ≤ 32 ∧ ∃ registry, Registry.decoded clocks image = .ok registry) ∧
    phase.value =
      (match steps.findSome? (config.failure? image) with
        | none => .ok ()
        | some failure => .error failure) ∧
    (∀ step failure, config.failure? image step = some failure ↔
      (∃ domain, step = .domain domain ∧ domain.isObjectModel = true ∧
        capacity domain < config.objectCount domain ∧
        failure = .setup domain .software (.invalid
          s!"{config.objectCount domain} objects exceed group capacity {capacity domain}")) ∨
      (step = .domain .clkDomain ∧ 32 < config.clocks.length ∧
        failure = .setup .clkDomain .software (.group (.outOfRange 32 32))) ∨
      (step = .table ∧ Registry.decoded clocks image = .error failure)) ∧
    (∀ other : Config, other.capabilities = config.capabilities → other.clocks = config.clocks →
      (∀ domain, domain.isObjectModel = true → .domain domain ∈ steps →
        other.objectCount domain = config.objectCount domain) →
      (softwarePhase.run (ofConfig other channel image)).value = phase.value) ∧
    (phase.value = .ok () → phase.state.workspace.clocks = clocks ∧
      (∃ registry, phase.state.registry = some registry ∧
        Registry.decoded clocks image = .ok registry) ∧
      ∀ domain, domain.isObjectModel = true → .domain domain ∈ steps →
        ∃ objects : Group ModelObject,
          phase.state.modules.get? domain =
            some (.objects ⟨domain, config.objectCount domain, some objects⟩) ∧
          objects.capacity = capacity domain ∧
          ∀ slot, objects.get? slot =
            if slot < config.objectCount domain then some ⟨slot⟩ else none) := by
  intro phase steps clocks capacity
  have value : phase.value = match steps.findSome? (config.failure? image) with
      | none => .ok ()
      | some failure => .error failure := value_softwarePhase ready
  refine ⟨?_, value, fun step failure => Config.failure?_eq_some_iff, ?_, ?_⟩
  · have ends : phase.value = .ok () ↔ steps.findSome? (config.failure? image) = none := by
      rw [value]
      cases steps.findSome? (config.failure? image) <;> simp
    rw [ends, List.findSome?_eq_none_iff]
    exact Config.forall_failure?_eq_none_iff
  · intro other capabilities same counts
    have again : (softwarePhase.run (ofConfig other channel image)).value =
        match (Sequence.enabled other.capabilities Sequence.software).findSome?
          (other.failure? image) with
        | none => .ok ()
        | some failure => .error failure := value_softwarePhase ready
    have failures : steps.filterMap (other.failure? image) =
        steps.filterMap (config.failure? image) := by
      apply List.filterMap_congr
      intro step enabled
      apply Config.failure?_congr same
      rintro domain rfl live
      exact counts domain live enabled
    rw [again, value, capabilities, ← List.head?_filterMap, ← List.head?_filterMap, failures]
  · intro succeeded
    obtain ⟨built, _⟩ := built_of_softwarePhase (Attempt.ending_of_value succeeded)
    obtain ⟨registry, held, decoded⟩ := built.registry
    rw [built.clocks] at decoded
    refine ⟨built.clocks, ⟨registry, held, decoded⟩, ?_⟩
    intro domain live enabled
    have fits := built.objects_fit domain live enabled
    have found := built.objects domain live
    rw [if_pos enabled] at found
    refine ⟨_, found, ?_, get?_built domain _⟩
    exact Group.capacity_filled (by rwa [List.length_map, List.length_range])

/-- An enabled domain without room for its objects gives the failure, whatever else is wrong: the
count of a domain that is not enabled, or a missing table behind it. -/
theorem softwarePhase_verdict_of_oversized :
    let config : Config := { Config.empty with
      counts := (DomainMap.empty.insert .vfeVar 300).insert .voltPolicy 33 }
    let phase := softwarePhase.run (ofConfig config Loopback.accepting none)
    (Channel.waitReady : Attempt Message Loopback ChannelError Unit).ending Loopback.accepting =
        (.ok (), Loopback.accepting) ∧
      phase.value = .error (.setup .voltPolicy .software
        (.invalid "33 objects exceed group capacity 32")) := by
  intro config phase
  have ready : (Channel.waitReady : Attempt Message Loopback ChannelError Unit).ending
      Loopback.accepting = (.ok (), Loopback.accepting) := rfl
  obtain ⟨_, value, _⟩ :=
    softwarePhase_verdict config none Loopback.accepting Loopback.accepting ready
  have first : (Sequence.enabled config.capabilities Sequence.software).findSome?
      (config.failure? none) = some (.setup .voltPolicy .software
        (.invalid "33 objects exceed group capacity 32")) := by decide +kernel
  rw [first] at value
  exact ⟨ready, value⟩

end Support

end PerfStates
