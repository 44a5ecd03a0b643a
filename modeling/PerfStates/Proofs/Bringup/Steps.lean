import Mathlib.Data.List.Nodup
import Mathlib.Data.List.Perm.Subperm
import PerfStates.Proofs.Bringup.Calls
import PerfStates.Proofs.Registry.Loading
import PerfStates.Proofs.Sequence

/-! The steps of the software phase. Each of them ends well or fails, as its module or the
table decides, and leaves alone what is not its own; run in order, they stop at the first
that fails, and the foundations set up by then are released. -/

namespace PerfStates

namespace SoftwareStep

/-- The call that a step makes when its module is there. -/
def calls : SoftwareStep → List Event
  | domain which => [.setUp .software which]
  | table => []

/-- The foundation that a step sets up, if it does. -/
def foundation? : SoftwareStep → Option Domain
  | domain which => if which.isFoundation then some which else none
  | table => none

theorem foundation?_eq_some_iff {step : SoftwareStep} {which : Domain} :
    step.foundation? = some which ↔ step = domain which ∧ which.isFoundation = true := by
  cases step with
  | domain other =>
    simp only [foundation?, Option.ite_none_right_eq_some, Option.some.injEq, domain.injEq]
    exact ⟨fun ⟨live, same⟩ => ⟨same, same ▸ live⟩, fun ⟨same, live⟩ => ⟨same ▸ live, same⟩⟩
  | table => simp [foundation?]

/-- The foundations that the given steps set up, newest first. -/
def unwound (done : List SoftwareStep) : List Domain := (done.filterMap foundation?).reverse

theorem mem_unwound {done : List SoftwareStep} {which : Domain} :
    which ∈ unwound done ↔ domain which ∈ done ∧ which.isFoundation = true := by
  simp only [unwound, List.mem_reverse, List.mem_filterMap, foundation?_eq_some_iff]
  exact ⟨fun ⟨_, member, same, live⟩ => ⟨same ▸ member, live⟩,
    fun ⟨member, live⟩ => ⟨_, member, rfl, live⟩⟩

theorem nodup_unwound {done : List SoftwareStep} (distinct : done.Nodup) :
    (unwound done).Nodup := by
  refine List.nodup_reverse.mpr (List.Nodup.filterMap ?_ distinct)
  intro first second which left right
  exact (foundation?_eq_some_iff.mp left).1.trans (foundation?_eq_some_iff.mp right).1.symm

end SoftwareStep

namespace Support

variable {M P : Type}

/-- Distinct foundations always find room, so a failed phase remembers every one of them. -/
theorem foldl_foundationsAfter (steps : List SoftwareStep) (foundations : List Domain)
    (distinct : (SoftwareStep.unwound steps ++ foundations).Nodup)
    (known : ∀ domain ∈ foundations, domain ∈ Domain.foundations) :
    steps.foldl foundationsAfter foundations = SoftwareStep.unwound steps ++ foundations := by
  unfold SoftwareStep.unwound at distinct ⊢
  induction steps generalizing foundations with
  | nil => rfl
  | cons step rest ih =>
    rw [List.foldl_cons]
    cases found : step.foundation? with
    | none =>
      have same : foundationsAfter foundations step = foundations := by
        cases step with
        | domain which =>
          have low : which.isFoundation = false := by simpa [SoftwareStep.foundation?] using found
          simp [foundationsAfter, low]
        | table => rfl
      rw [List.filterMap_cons_none found] at distinct ⊢
      rw [same, ih foundations distinct known]
    | some which =>
      obtain ⟨rfl, live⟩ := SoftwareStep.foundation?_eq_some_iff.mp found
      have member : which ∈ Domain.foundations := List.contains_iff_mem.mp live
      rw [List.filterMap_cons_some found, List.reverse_cons, List.append_assoc,
        List.singleton_append] at distinct ⊢
      have next : (which :: foundations).Nodup := (List.nodup_append.mp distinct).2.1
      have within : ∀ domain ∈ which :: foundations, domain ∈ Domain.foundations := by
        intro domain listed
        rcases List.mem_cons.mp listed with rfl | listed
        · exact member
        · exact known domain listed
      -- There are as many places as foundations, so distinct ones cannot run out of them.
      have room : (which :: foundations).length ≤ foundationRoom :=
        (List.subperm_of_subset next within).length_le
      have absent : which ∉ foundations := (List.nodup_cons.mp next).1
      have added : foundationsAfter foundations (.domain which) = which :: foundations := by
        have spare : foundations.length < foundationRoom := room
        simp [foundationsAfter, live, absent, spare]
      rw [added, ih _ distinct within]

theorem foldl_foundationsAfter_nil {steps : List SoftwareStep} (distinct : steps.Nodup) :
    steps.foldl foundationsAfter [] = SoftwareStep.unwound steps := by
  have fits := foldl_foundationsAfter steps [] (by
    rw [List.append_nil]
    exact SoftwareStep.nodup_unwound distinct)
  rw [fits fun domain member => by simp at member, List.append_nil]

theorem mem_of_mem_foundationsAfter {foundations : List Domain} {step : SoftwareStep}
    {domain : Domain} (member : domain ∈ foundationsAfter foundations step) :
    step = .domain domain ∨ domain ∈ foundations := by
  cases step with
  | domain which =>
    simp only [foundationsAfter] at member
    split at member
    · rcases List.mem_cons.mp member with rfl | member
      · exact .inl rfl
      · exact .inr member
    · exact .inr member
  | table => exact .inr member

/-- What steps leave alone: the capabilities, the image and the lifecycle always, the modules
of the domains that are not among them, and the registry unless the table is. -/
structure Confined (steps : List SoftwareStep) (earlier later : Support M P) : Prop where
  capabilities : later.capabilities = earlier.capabilities
  image : later.image = earlier.image
  lifecycle : later.lifecycle = earlier.lifecycle
  contains : ∀ domain, later.modules.contains domain = earlier.modules.contains domain
  modules : ∀ domain, SoftwareStep.domain domain ∉ steps →
    later.modules.get? domain = earlier.modules.get? domain
  registry : SoftwareStep.table ∉ steps → later.registry = earlier.registry

theorem Confined.refl (support : Support M P) : Confined [] support support :=
  ⟨rfl, rfl, rfl, fun _ => rfl, fun _ _ => rfl, fun _ => rfl⟩

theorem Confined.trans {earlier middle later : Support M P} {first second : List SoftwareStep}
    (one : Confined first earlier middle) (two : Confined second middle later) :
    Confined (first ++ second) earlier later where
  capabilities := two.capabilities.trans one.capabilities
  image := two.image.trans one.image
  lifecycle := two.lifecycle.trans one.lifecycle
  contains domain := (two.contains domain).trans (one.contains domain)
  modules domain absent := by
    rw [List.mem_append, not_or] at absent
    exact (two.modules domain absent.2).trans (one.modules domain absent.1)
  registry absent := by
    rw [List.mem_append, not_or] at absent
    exact (two.registry absent.2).trans (one.registry absent.1)

theorem confined_setUp {support : Support M P} {domain : Domain} {model : M}
    (found : support.modules.get? domain = some model) (next : M) (workspace : Workspace P) :
    Confined [.domain domain] support
      { support with modules := support.modules.insert domain next, workspace } where
  capabilities := rfl
  image := rfl
  lifecycle := rfl
  contains other := by
    by_cases same : domain = other
    · subst same
      simp [DomainMap.contains, found]
    · simp [DomainMap.contains, DomainMap.get?_insert_of_ne _ _ same]
  modules other absent := DomainMap.get?_insert_of_ne _ _ fun same => by simp [same] at absent
  registry _ := rfl

section Setup

variable [DomainModule M] [Channel P]

/-- A setup call goes to the module of its domain, which may change itself and the workspace. -/
theorem ending_setUp (phase : Phase) (domain : Domain) (support : Support M P) :
    (setUp phase domain).ending support =
      match support.modules.get? domain with
      | none => (.error (.missingDomain domain), support)
      | some model =>
        let (ended, next, workspace) :=
          (DomainModule.setUp phase support.capabilities).ending (model, support.workspace)
        (ended.mapError (.setup domain phase),
          { support with modules := support.modules.insert domain next, workspace }) := by
  simp only [setUp, Attempt.ending_bind, Attempt.ending_get, Attempt.ending_ofExcept,
    ModuleTable.require]
  cases support.modules.get? domain <;> rfl

theorem made_setUp (phase : Phase) (domain : Domain) (support : Support M P) :
    (setUp phase domain).made support =
      if support.modules.contains domain then [.setUp phase domain] else [] := by
  cases found : support.modules.get? domain with
  | none => simp [setUp, ModuleTable.require, DomainMap.contains, found]
  | some model =>
    simp [setUp, ModuleTable.require, DomainMap.contains, found, Event.calls, Event.message?]

/-- A step of the software phase that ends well, and the subsystem it leaves. -/
inductive StepSucceeds (support : Support M P) : SoftwareStep → Support M P → Prop where
  | setUp {domain : Domain} {model next : M} {workspace : Workspace P}
      (found : support.modules.get? domain = some model)
      (ended : (DomainModule.setUpSoftware support.capabilities).ending (model, support.workspace) =
        (.ok (), next, workspace)) :
      StepSucceeds support (.domain domain)
        { support with modules := support.modules.insert domain next, workspace }
  | table {registry : Registry}
      (decoded : Registry.decoded support.workspace.clocks support.image = .ok registry) :
      StepSucceeds support .table { support with registry := some registry }

/-- A step of the software phase that fails, with its failure, the calls it makes and the
subsystem it leaves. A domain without a module is not called. -/
inductive StepFails (support : Support M P) :
    SoftwareStep → Failure → List Event → Support M P → Prop where
  | missing {domain : Domain} (absent : support.modules.get? domain = none) :
      StepFails support (.domain domain) (.missingDomain domain) [] support
  | setUp {domain : Domain} {model next : M} {workspace : Workspace P} {cause : ModuleError}
      (found : support.modules.get? domain = some model)
      (ended : (DomainModule.setUpSoftware support.capabilities).ending (model, support.workspace) =
        (.error cause, next, workspace)) :
      StepFails support (.domain domain) (.setup domain .software cause)
        [.setUp .software domain]
        { support with modules := support.modules.insert domain next, workspace }
  | table {failure : Failure}
      (refused : Registry.decoded support.workspace.clocks support.image = .error failure) :
      StepFails support .table failure [] support

/-- Steps that end well one after another, from one subsystem to another. -/
inductive Completes : Support M P → List SoftwareStep → Support M P → Prop where
  | nil (support : Support M P) : Completes support [] support
  | cons {support next last : Support M P} {step : SoftwareStep} {rest : List SoftwareStep}
      (first : StepSucceeds support step next) (others : Completes next rest last) :
      Completes support (step :: rest) last

/-- A step of the software phase either ends well or fails, as its module or the table decides. -/
theorem softwareStep_outcome (step : SoftwareStep) (support : Support M P) :
    (∃ next, StepSucceeds support step next ∧
      (softwareStep step).ending support = (.ok (), next) ∧
      (softwareStep step).made support = step.calls) ∨
    ∃ failure made after, StepFails support step failure made after ∧
      (softwareStep step).ending support = (.error failure, after) ∧
      (softwareStep step).made support = made := by
  cases step with
  | domain domain =>
    have ends : (softwareStep (.domain domain)).ending support =
        (setUp .software domain).ending support := by
      simp only [softwareStep, Attempt.ending_bind, ending_note]
    have calls : (softwareStep (.domain domain)).made support =
        (setUp .software domain).made support := by
      simp only [softwareStep, Attempt.made_bind, ending_note, made_note, List.nil_append]
    rw [ends, calls, ending_setUp, made_setUp]
    cases found : support.modules.get? domain with
    | none => exact .inr ⟨_, _, _, .missing found, rfl, by simp [DomainMap.contains, found]⟩
    | some model =>
      have present : support.modules.contains domain = true := by simp [DomainMap.contains, found]
      rcases ended : (DomainModule.setUpSoftware support.capabilities).ending
        (model, support.workspace) with ⟨cause | ⟨⟨⟩⟩, next, workspace⟩
      · refine .inr ⟨_, _, _, .setUp found ended, ?_, if_pos present⟩
        simp only [DomainModule.setUp, ended]
        rfl
      · refine .inl ⟨_, .setUp found ended, ?_, if_pos present⟩
        simp only [DomainModule.setUp, ended]
        rfl
  | table =>
    simp only [softwareStep, Attempt.ending_bind, ending_note, Attempt.made_bind, made_note,
      Attempt.ending_get, Attempt.made_get, Attempt.ending_relay, Attempt.made_relay,
      Registry.ending_ofFirmware, List.nil_append]
    cases decoded : Registry.decoded support.workspace.clocks support.image with
    | error failure => exact .inr ⟨_, _, _, .table decoded, rfl, rfl⟩
    | ok registry => exact .inl ⟨_, .table decoded, rfl, rfl⟩

theorem StepSucceeds.confined {support next : Support M P} {step : SoftwareStep}
    (succeeds : StepSucceeds support step next) : Confined [step] support next := by
  cases succeeds with
  | setUp found ended => exact confined_setUp found _ _
  | table decoded =>
    exact ⟨rfl, rfl, rfl, fun _ => rfl, fun _ _ => rfl, fun absent => by simp at absent⟩

theorem StepFails.confined {support after : Support M P} {step : SoftwareStep} {failure : Failure}
    {made : List Event} (fails : StepFails support step failure made after) :
    Confined [step] support after := by
  cases fails with
  | missing absent => exact ⟨rfl, rfl, rfl, fun _ => rfl, fun _ _ => rfl, fun _ => rfl⟩
  | setUp found ended => exact confined_setUp found _ _
  | table refused => exact ⟨rfl, rfl, rfl, fun _ => rfl, fun _ _ => rfl, fun _ => rfl⟩

theorem Completes.confined {support last : Support M P} {steps : List SoftwareStep}
    (completes : Completes support steps last) : Confined steps support last := by
  induction completes with
  | nil support => exact .refl support
  | cons first _ ih => exact first.confined.trans ih

theorem StepSucceeds.contains_foundationsAfter {support next : Support M P} {step : SoftwareStep}
    (succeeds : StepSucceeds support step next) {foundations : List Domain}
    (present : ∀ domain ∈ foundations, support.modules.contains domain = true) :
    ∀ domain ∈ foundationsAfter foundations step, next.modules.contains domain = true := by
  intro domain member
  rw [succeeds.confined.contains]
  cases succeeds with
  | @setUp which model _ _ found ended =>
    rcases mem_of_mem_foundationsAfter member with same | member
    · cases same
      simp [DomainMap.contains, found]
    · exact present domain member
  | table decoded => exact present domain member

theorem softwareSteps_of_disabled {gated : Gated SoftwareStep} {support : Support M P}
    (off : gated.enabled support.capabilities = false) (foundations : List Domain)
    (rest : List (Gated SoftwareStep)) :
    (softwareSteps foundations (gated :: rest)).ending support =
        (softwareSteps foundations rest).ending support ∧
      (softwareSteps foundations (gated :: rest)).made support =
        (softwareSteps foundations rest).made support := by
  constructor <;> simp [softwareSteps, off]

theorem softwareSteps_of_ok {gated : Gated SoftwareStep} {support next : Support M P}
    (on : gated.enabled support.capabilities = true)
    (ended : (softwareStep gated.step).ending support = (.ok (), next))
    (foundations : List Domain) (rest : List (Gated SoftwareStep)) :
    (softwareSteps foundations (gated :: rest)).ending support =
        (softwareSteps (foundationsAfter foundations gated.step) rest).ending next ∧
      (softwareSteps foundations (gated :: rest)).made support =
        (softwareStep gated.step).made support ++
          (softwareSteps (foundationsAfter foundations gated.step) rest).made next := by
  constructor
  · simp only [softwareSteps, Attempt.ending_bind, Attempt.ending_get, on, ↓reduceIte,
      Attempt.ending_outcome, ended]
  · simp only [softwareSteps, Attempt.made_bind, Attempt.ending_get, Attempt.made_get,
      List.nil_append, on, ↓reduceIte, Attempt.ending_outcome, Attempt.made_outcome, ended]

theorem ending_softwareSteps_of_error {gated : Gated SoftwareStep} {support after : Support M P}
    {failure : Failure} (on : gated.enabled support.capabilities = true)
    (ended : (softwareStep gated.step).ending support = (.error failure, after))
    (foundations : List Domain) (rest : List (Gated SoftwareStep)) :
    (softwareSteps foundations (gated :: rest)).ending support =
      (.error failure, { after with modules := foundations.foldl release after.modules }) := by
  simp only [softwareSteps, Attempt.ending_bind, Attempt.ending_get, on, ↓reduceIte,
    Attempt.ending_outcome, ended]
  simp only [Attempt.ending_ofAction, Attempt.ending_throw, state_unwind]

theorem made_softwareSteps_of_error {gated : Gated SoftwareStep} {support after : Support M P}
    {failure : Failure} (on : gated.enabled support.capabilities = true)
    (ended : (softwareStep gated.step).ending support = (.error failure, after))
    {foundations : List Domain} (rest : List (Gated SoftwareStep))
    (present : ∀ domain ∈ foundations, after.modules.contains domain = true) :
    (softwareSteps foundations (gated :: rest)).made support =
      (softwareStep gated.step).made support ++ foundations.map .free := by
  simp only [softwareSteps, Attempt.made_bind, Attempt.ending_get, Attempt.made_get,
    List.nil_append, on, ↓reduceIte, Attempt.ending_outcome, Attempt.made_outcome, ended]
  simp only [Attempt.ending_ofAction, Attempt.made_ofAction, Attempt.made_throw,
    List.append_nil, calls_unwind _ _ present]

/-- The enabled steps run in order, all of them or up to the first that fails, and then the
foundations set up by then are released. -/
theorem softwareSteps_outcome (sequence : List (Gated SoftwareStep)) (foundations : List Domain)
    (support : Support M P)
    (present : ∀ domain ∈ foundations, support.modules.contains domain = true) :
    let steps := Sequence.enabled support.capabilities sequence
    let run : Step M P Unit := softwareSteps foundations sequence
    (∃ last, Completes support steps last ∧ run.ending support = (.ok (), last) ∧
      run.made support = steps.flatMap SoftwareStep.calls) ∨
    ∃ done step rest before failure made after, steps = done ++ step :: rest ∧
      Completes support done before ∧ StepFails before step failure made after ∧
      run.ending support = (.error failure, { after with
        modules := (done.foldl foundationsAfter foundations).foldl release after.modules }) ∧
      run.made support = done.flatMap SoftwareStep.calls ++ made ++
        (done.foldl foundationsAfter foundations).map .free := by
  induction sequence generalizing foundations support with
  | nil => exact .inl ⟨support, .nil support, rfl, rfl⟩
  | cons gated sequence ih =>
    cases on : gated.enabled support.capabilities with
    | false =>
      obtain ⟨ends, calls⟩ := softwareSteps_of_disabled on foundations sequence
      simp only [ends, calls, Sequence.enabled_cons_of_disabled on]
      exact ih foundations support present
    | true =>
      rw [Sequence.enabled_cons_of_enabled on]
      rcases softwareStep_outcome gated.step support with
        ⟨next, succeeds, ended, called⟩ | ⟨failure, made, after, fails, ended, called⟩
      · obtain ⟨ends, calls⟩ := softwareSteps_of_ok on ended foundations sequence
        rw [← succeeds.confined.capabilities]
        simp only [ends, calls, called]
        rcases ih _ next (succeeds.contains_foundationsAfter present) with
          ⟨last, completes, ending, trace⟩ |
          ⟨done, step, rest, before, failure, made, after, same, completes, fails, ending, trace⟩
        · exact .inl ⟨last, .cons succeeds completes, ending, by rw [trace]; rfl⟩
        · refine .inr ⟨gated.step :: done, step, rest, before, failure, made, after,
            by rw [same]; rfl, .cons succeeds completes, fails, ending, ?_⟩
          rw [trace]
          simp
      · have kept : ∀ domain ∈ foundations, after.modules.contains domain = true :=
          fun domain member => (fails.confined.contains domain).trans (present domain member)
        have calls := made_softwareSteps_of_error on ended sequence kept
        exact .inr ⟨[], gated.step, _, support, failure, made, after, rfl, .nil support, fails,
          ending_softwareSteps_of_error on ended foundations sequence, by rw [calls, called]; rfl⟩

end Setup

end Support

end PerfStates
