import PerfStates.Proofs.Bringup.Trace
import PerfStates.Proofs.Module.Configured

namespace PerfStates.Support

open ModuleTable (initial?)

variable {P : Type}

/-- A subsystem made from a configuration after some steps of the software phase. -/
structure Prepared (config : Config) (image : Option (List UInt8)) (channel : P)
    (done : List SoftwareStep) (support : Support BuiltinModule P) : Prop where
  capabilities : support.capabilities = config.capabilities
  firmware : support.image = image
  channel : support.workspace.channel = channel
  modules : ∀ domain, support.modules.get? domain =
    if SoftwareStep.domain domain ∈ done then (initial? config domain).map BuiltinModule.built
    else initial? config domain
  free_of_obstacles : ∀ domain, SoftwareStep.domain domain ∈ done → config.obstacle? domain = none
  clocks : support.workspace.clocks = Group.filled Group.smallCapacity
    (if SoftwareStep.domain .clkDomain ∈ done then config.clocks else [])
  decoded : SoftwareStep.table ∈ done → ∃ registry, support.registry = some registry ∧
    Registry.decoded (Group.filled Group.smallCapacity config.clocks) image = .ok registry
  undecoded : SoftwareStep.table ∉ done → support.registry = none

theorem prepared_ofConfig (config : Config) (image : Option (List UInt8)) (channel : P) :
    Prepared config image channel [] (ofConfig config channel image) where
  capabilities := rfl
  firmware := rfl
  channel := rfl
  modules domain := by
    simp only [ofConfig, start, ModuleTable.get?_builtin, List.not_mem_nil, ↓reduceIte]
  free_of_obstacles domain member := by simp at member
  clocks := by
    simp only [ofConfig, start, Workspace.start, Group.empty_eq_filled, List.not_mem_nil,
      ↓reduceIte]
  decoded member := by simp at member
  undecoded _ := rfl

variable {config : Config} {image : Option (List UInt8)} {channel : P} {done : List SoftwareStep}
  {support : Support BuiltinModule P}

theorem Prepared.withLifecycle (prepared : Prepared config image channel done support)
    (lifecycle : Lifecycle) : Prepared config image channel done { support with lifecycle } :=
  { prepared with }

theorem Prepared.clocks_fit (prepared : Prepared config image channel done support)
    (member : SoftwareStep.domain .clkDomain ∈ done) :
    config.clocks.length ≤ Group.smallCapacity :=
  Config.clocks_fit_of_obstacle?_eq_none (prepared.free_of_obstacles _ member)

theorem Prepared.consistent_clocks (prepared : Prepared config image channel done support) :
    support.workspace.clocks.Consistent ∧
      support.workspace.clocks.capacity = Group.smallCapacity := by
  have fits : (if SoftwareStep.domain .clkDomain ∈ done then config.clocks else []).length ≤
      Group.smallCapacity := by
    split
    · rename_i member
      exact prepared.clocks_fit member
    · exact Nat.zero_le _
  rw [prepared.clocks]
  exact ⟨Group.consistent_filled fits, Group.capacity_filled fits⟩

variable [Channel P]

/-- The setup of a domain that has not had its turn yet starts from the configured module. -/
theorem Prepared.ending_setUpSoftware (prepared : Prepared config image channel done support)
    {domain : Domain} (fresh : SoftwareStep.domain domain ∉ done) {model : BuiltinModule}
    (found : support.modules.get? domain = some model) :
    initial? config domain = some model ∧
      (DomainModule.setUpSoftware support.capabilities).ending (model, support.workspace) =
        match config.obstacle? domain with
        | none => (.ok (), model.built, { support.workspace with
            clocks := if domain = .clkDomain then Group.filled Group.smallCapacity config.clocks
              else support.workspace.clocks })
        | some cause => (.error cause, model, { support.workspace with
            clocks := if domain = .clkDomain then
                Group.filled Group.smallCapacity (config.clocks.take Group.smallCapacity)
              else support.workspace.clocks }) := by
  have called : initial? config domain = some model := by
    rw [← found, prepared.modules, if_neg fresh]
  obtain ⟨consistent, small⟩ := prepared.consistent_clocks
  exact ⟨called, BuiltinModule.ending_setUpSoftware called _ _ consistent small⟩

/-- A setup that fails does so for an obstacle in the configuration, and changes at most the clock
group. -/
theorem Prepared.of_setUp_error (prepared : Prepared config image channel done support)
    {domain : Domain} (fresh : SoftwareStep.domain domain ∉ done) {model next : BuiltinModule}
    {workspace : Workspace P} {cause : ModuleError}
    (found : support.modules.get? domain = some model)
    (ended : (DomainModule.setUpSoftware support.capabilities).ending (model, support.workspace) =
      (.error cause, next, workspace)) :
    config.obstacle? domain = some cause ∧ next = model ∧ workspace.channel = channel := by
  obtain ⟨_, ends⟩ := prepared.ending_setUpSoftware fresh found
  rw [ended] at ends
  cases free : config.obstacle? domain with
  | none =>
    rw [free] at ends
    cases ends
  | some obstacle =>
    rw [free] at ends
    cases ends
    exact ⟨rfl, rfl, prepared.channel⟩

theorem Prepared.snoc (prepared : Prepared config image channel done support) {step : SoftwareStep}
    {next : Support BuiltinModule P} (fresh : step ∉ done)
    (ordered : step = .table → SoftwareStep.domain .clkDomain ∈ done)
    (succeeds : StepSucceeds support step next) :
    Prepared config image channel (done ++ [step]) next := by
  cases succeeds with
  | @setUp domain model after workspace found ended =>
    obtain ⟨called, ends⟩ := prepared.ending_setUpSoftware fresh found
    rw [ended] at ends
    cases free : config.obstacle? domain with
    | some cause => rw [free] at ends; cases ends
    | none =>
      rw [free] at ends
      cases ends
      refine ⟨prepared.capabilities, prepared.firmware, prepared.channel, fun other => ?_,
        fun other member => ?_, ?_, fun member => ?_, fun absent => ?_⟩
      · by_cases same : domain = other
        · subst same
          simp [called]
        · rw [DomainMap.get?_insert_of_ne _ _ same, prepared.modules]
          simp [Ne.symm same]
      · rcases List.mem_append.mp member with earlier | last
        · exact prepared.free_of_obstacles other earlier
        · cases List.mem_singleton.mp last
          exact free
      · by_cases same : domain = .clkDomain
        · subst same
          simp
        · rw [if_neg same, prepared.clocks]
          simp [Ne.symm same]
      · exact prepared.decoded (by simpa using member)
      · exact prepared.undecoded (by simpa using absent)
  | @table registry decoded =>
    have placed := ordered rfl
    refine ⟨prepared.capabilities, prepared.firmware, prepared.channel, fun other => ?_,
      fun other member => ?_, ?_, fun member => ?_, fun absent => ?_⟩
    · simpa using prepared.modules other
    · exact prepared.free_of_obstacles other (by simpa using member)
    · simpa using prepared.clocks
    · rw [prepared.clocks, if_pos placed, prepared.firmware] at decoded
      exact ⟨registry, rfl, decoded⟩
    · simp at absent

theorem Prepared.completes (prepared : Prepared config image channel done support)
    {steps : List SoftwareStep} {last : Support BuiltinModule P}
    (completes : Completes support steps last) (distinct : (done ++ steps).Nodup)
    (ordered : ∀ before after, done ++ steps = before ++ .table :: after →
      SoftwareStep.domain .clkDomain ∈ before) :
    Prepared config image channel (done ++ steps) last := by
  -- The invariant is indexed by the steps taken, so each case moves one step over into `done`.
  induction completes generalizing done with
  | nil support => rwa [List.append_nil]
  | @cons support next last step rest first others ih =>
    have fresh : step ∉ done := fun member =>
      (List.nodup_append.mp distinct).2.2 step member step List.mem_cons_self rfl
    have taken := prepared.snoc fresh (fun same => ordered done rest (same ▸ rfl)) first
    rw [← List.singleton_append, ← List.append_assoc] at distinct ordered ⊢
    exact ih taken distinct ordered

theorem Prepared.unchanged (prepared : Prepared config image channel done support)
    {step : SoftwareStep} {failure : Failure} {made : List Event}
    {after : Support BuiltinModule P} (fresh : step ∉ done) (present : step ≠ .domain .mclk)
    (fails : StepFails support step failure made after) :
    (∀ domain, after.modules.get? domain = support.modules.get? domain) ∧
      after.registry = support.registry ∧ after.workspace.channel = channel := by
  cases fails with
  | @missing domain absent =>
    rw [prepared.modules, if_neg fresh] at absent
    exact absurd (congrArg _ (ModuleTable.eq_mclk_of_initial?_eq_none absent)) present
  | @setUp domain model next workspace cause found ended =>
    obtain ⟨_, rfl, kept⟩ := prepared.of_setUp_error fresh found ended
    refine ⟨fun other => ?_, rfl, kept⟩
    by_cases same : domain = other
    · subst same
      rw [DomainMap.get?_insert_self, found]
    · exact DomainMap.get?_insert_of_ne _ _ same
  | table refused => exact ⟨fun _ => rfl, rfl, prepared.channel⟩

end PerfStates.Support
