import PerfStates.Module.Table
import PerfStates.Proofs.Module.Halves
import PerfStates.Proofs.Sequence

namespace PerfStates

namespace BuiltinModule

/-- The module as it was before any call. -/
def blank : BuiltinModule → BuiltinModule
  | unit model => unit (.start model.domain)
  | objects model => objects (.start model.domain model.count)
  | clocks model => clocks (.start model.entries)
  | memoryClock _ => memoryClock .start

/-- The module once its software half has completed. -/
def built : BuiltinModule → BuiltinModule
  | unit model => unit { model with reserved := true }
  | objects model =>
    objects { model with objects := some (ObjectDomain.built model.domain model.count) }
  | clocks model => clocks { model with constructed := true }
  | memoryClock model => memoryClock model

@[simp] theorem blank_built (model : BuiltinModule) : model.built.blank = model.blank := by
  cases model <;> rfl

@[simp] theorem blank_released (model : BuiltinModule) : model.released.blank = model.blank := by
  cases model <;> rfl

end BuiltinModule

namespace ModuleTable

/-- The module that a configuration calls for in a domain, before any call. -/
def initial? (config : Config) (domain : Domain) : Option BuiltinModule :=
  if domain.isFoundation then some (.unit (.start domain))
  else if domain.isObjectModel then some (.objects (.start domain (config.objectCount domain)))
  else if domain = .clkDomain then some (.clocks (.start config.clocks))
  else if config.memoryClock then some (.memoryClock .start)
  else none

theorem get?_foldl_register {M : Type} [DomainModule M] (models : List M)
    (distinct : (models.map DomainModule.domain).Nodup) (table : ModuleTable M) (domain : Domain) :
    (models.foldl register table).get? domain =
      (models.find? fun model => DomainModule.domain model = domain).or (table.get? domain) := by
  induction models generalizing table with
  | nil => rfl
  | cons model rest ih =>
    rw [List.map_cons, List.nodup_cons] at distinct
    rw [List.foldl_cons, ih distinct.2, List.find?_cons, register]
    by_cases same : DomainModule.domain model = domain
    · have none : rest.find? (fun other => DomainModule.domain other = domain) = none := by
        rw [List.find?_eq_none]
        intro other member there
        refine distinct.1 (List.mem_map.mpr ⟨other, member, ?_⟩)
        exact (of_decide_eq_true there).trans same.symm
      subst same
      simp [none]
    · simp [same, DomainMap.get?_insert_of_ne _ _ same]

theorem domains_builtinModules (config : Config) :
    (builtinModules config).map DomainModule.domain =
      Domain.foundations ++ Domain.objectModels ++ [.clkDomain] ++
        if config.memoryClock then [.mclk] else [] := by
  unfold builtinModules
  cases config.memoryClock <;> rfl

theorem get?_builtin (config : Config) (domain : Domain) :
    (builtin config).get? domain = initial? config domain := by
  have distinct : ((builtinModules config).map DomainModule.domain).Nodup := by
    rw [domains_builtinModules]
    cases config.memoryClock <;> decide
  rw [builtin, get?_foldl_register _ distinct, DomainMap.get?_empty, Option.or_none]
  unfold builtinModules initial?
  cases domain <;> cases config.memoryClock <;> rfl

theorem initial?_foundation (config : Config) {domain : Domain}
    (live : domain.isFoundation = true) :
    initial? config domain = some (.unit (.start domain)) := if_pos live

theorem initial?_objects (config : Config) {domain : Domain} (live : domain.isObjectModel = true) :
    initial? config domain = some (.objects (.start domain (config.objectCount domain))) := by
  obtain ⟨other, _⟩ := Domain.ne_of_isObjectModel live
  simp [initial?, other, live]

theorem initial?_clkDomain (config : Config) :
    initial? config .clkDomain = some (.clocks (.start config.clocks)) := rfl

theorem initial?_mclk (config : Config) :
    initial? config .mclk = if config.memoryClock then some (.memoryClock .start) else none := rfl

theorem eq_mclk_of_initial?_eq_none {config : Config} {domain : Domain}
    (absent : initial? config domain = none) : domain = .mclk := by
  unfold initial? at absent
  cases domain <;> first | rfl | cases absent

theorem blank_initial? (config : Config) (domain : Domain) :
    (initial? config domain).map BuiltinModule.blank = initial? config domain := by
  by_cases unit : domain.isFoundation = true
  · rw [initial?_foundation config unit]
    rfl
  by_cases model : domain.isObjectModel = true
  · rw [initial?_objects config model]
    rfl
  rcases Domain.eq_of_other unit model with rfl | rfl
  · rfl
  · rw [initial?_mclk]
    split <;> rfl

end ModuleTable

namespace Config

/-- Why the software half of a domain cannot be set up as configured, if it cannot. -/
def obstacle? (config : Config) (domain : Domain) : Option ModuleError :=
  let count := config.objectCount domain
  let capacity := ObjectDomain.capacity domain
  if domain.isObjectModel && capacity < count then
    some (.invalid s!"{count} objects exceed group capacity {capacity}")
  else if domain = .clkDomain ∧ Group.smallCapacity < config.clocks.length then
    some (.group (.outOfRange Group.smallCapacity Group.smallCapacity))
  else none

theorem objects_fit_of_obstacle?_eq_none {config : Config} {domain : Domain}
    (free : config.obstacle? domain = none) (live : domain.isObjectModel = true) :
    config.objectCount domain ≤ ObjectDomain.capacity domain := by
  refine Nat.le_of_not_lt fun large => ?_
  simp [obstacle?, live, large] at free

theorem clocks_fit_of_obstacle?_eq_none {config : Config}
    (free : config.obstacle? .clkDomain = none) : config.clocks.length ≤ Group.smallCapacity := by
  refine Nat.le_of_not_lt fun large => ?_
  have uncounted : Domain.clkDomain.isObjectModel = false := rfl
  simp [obstacle?, uncounted, large] at free

/-- The two obstacles: more objects, or more clock domains, than there is room for. -/
theorem obstacle?_eq_some_iff {config : Config} {domain : Domain} {cause : ModuleError} :
    config.obstacle? domain = some cause ↔
      (domain.isObjectModel = true ∧
        ObjectDomain.capacity domain < config.objectCount domain ∧
        cause = .invalid
          s!"{config.objectCount domain} objects exceed group capacity {ObjectDomain.capacity domain}") ∨
      (domain = .clkDomain ∧ Group.smallCapacity < config.clocks.length ∧
        cause = .group (.outOfRange Group.smallCapacity Group.smallCapacity)) := by
  simp only [obstacle?, Bool.and_eq_true, decide_eq_true_eq]
  by_cases large : domain.isObjectModel = true ∧
      ObjectDomain.capacity domain < config.objectCount domain
  · obtain ⟨_, other, _⟩ := Domain.ne_of_isObjectModel large.1
    simp [large, other, eq_comm]
  · rw [if_neg large]
    by_cases many : domain = .clkDomain ∧ Group.smallCapacity < config.clocks.length
    · obtain ⟨rfl, more⟩ := many
      have uncounted : Domain.clkDomain.isObjectModel = false := rfl
      simp [uncounted, more, eq_comm]
    · rw [if_neg many]
      constructor
      · intro absurdity
        cases absurdity
      · rintro (⟨live, more, _⟩ | ⟨same, more, _⟩)
        · exact absurd ⟨live, more⟩ large
        · exact absurd ⟨same, more⟩ many

theorem obstacle?_eq_none_iff {config : Config} {domain : Domain} :
    config.obstacle? domain = none ↔
      (domain.isObjectModel = true → config.objectCount domain ≤ ObjectDomain.capacity domain) ∧
        (domain = .clkDomain → config.clocks.length ≤ Group.smallCapacity) := by
  constructor
  · intro free
    constructor
    · exact objects_fit_of_obstacle?_eq_none free
    · rintro rfl
      exact clocks_fit_of_obstacle?_eq_none free
  · rintro ⟨objects, clocks⟩
    rw [Option.eq_none_iff_forall_ne_some]
    intro cause stopped
    rcases obstacle?_eq_some_iff.mp stopped with ⟨live, more, _⟩ | ⟨same, more, _⟩
    · exact Nat.not_lt.mpr (objects live) more
    · exact Nat.not_lt.mpr (clocks same) more

end Config

/-- The software half of a domain builds its module unless the configuration stands in the way.
Of the workspace it only ever touches the clock group. -/
theorem BuiltinModule.ending_setUpSoftware {P : Type} [Channel P] {config : Config}
    {domain : Domain} {model : BuiltinModule}
    (called : ModuleTable.initial? config domain = some model) (capabilities : Capabilities)
    (workspace : Workspace P) (consistent : workspace.clocks.Consistent)
    (small : workspace.clocks.capacity = Group.smallCapacity) :
    (DomainModule.setUpSoftware capabilities).ending (model, workspace) =
      match config.obstacle? domain with
      | none => (.ok (), model.built, { workspace with
          clocks := if domain = .clkDomain then Group.filled Group.smallCapacity config.clocks
            else workspace.clocks })
      | some cause => (.error cause, model, { workspace with
          clocks := if domain = .clkDomain then
              Group.filled Group.smallCapacity (config.clocks.take Group.smallCapacity)
            else workspace.clocks }) := by
  by_cases live : domain.isFoundation = true
  · obtain ⟨uncounted, other, _⟩ := Domain.ne_of_isFoundation live
    rw [ModuleTable.initial?_foundation config live] at called
    obtain rfl := Option.some.inj called
    simp [Config.obstacle?, uncounted, other, ending_setUpSoftware_unit, built]
  by_cases counted : domain.isObjectModel = true
  · obtain ⟨_, other, _⟩ := Domain.ne_of_isObjectModel counted
    rw [ModuleTable.initial?_objects config counted] at called
    obtain rfl := Option.some.inj called
    rw [ending_setUpSoftware_objects]
    by_cases fits : config.objectCount domain ≤ ObjectDomain.capacity domain
    · simp [Config.obstacle?, counted, other, ObjectDomain.start, fits, Nat.not_lt.mpr fits, built]
    · simp [Config.obstacle?, counted, other, ObjectDomain.start, fits, Nat.lt_of_not_le fits]
  rcases Domain.eq_of_other live counted with rfl | rfl
  · rw [ModuleTable.initial?_clkDomain] at called
    obtain rfl := Option.some.inj called
    rw [ending_setUpSoftware_clocks _ _ _ consistent small]
    by_cases fits : config.clocks.length ≤ Group.smallCapacity
    · simp [Config.obstacle?, counted, ClockModule.start, fits, Nat.not_lt.mpr fits, built]
    · simp [Config.obstacle?, counted, ClockModule.start, fits, Nat.lt_of_not_le fits]
  · rw [ModuleTable.initial?_mclk] at called
    cases there : config.memoryClock with
    | false =>
      rw [there] at called
      cases called
    | true =>
      rw [there] at called
      obtain rfl := Option.some.inj called
      simp [Config.obstacle?, counted, ending_setUpSoftware_memoryClock, built]

end PerfStates
