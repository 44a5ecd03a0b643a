import PerfStates.Proofs.Module.Acts

/-! Modules that share one workspace, called in any order. What a module holds is decided by its
own calls alone; the clock group is decided by the clock module whose software half was called
last, whatever became of that call; and a second half sends what there is at that moment. -/

namespace PerfStates

/-- Modules and the workspace that they share. -/
structure Assembly (P : Type) where
  modules : List BuiltinModule
  workspace : Workspace P

namespace Assembly

open BuiltinModule (Standing standing_blank)

/-- A call of the module at one place. -/
structure Call where
  place : Nat
  act : Act
deriving DecidableEq

/-- Modules that were not called yet, in a workspace that nothing was done in. -/
def start {P : Type} (models : List BuiltinModule) (channel : P) : Assembly P :=
  ⟨models.map BuiltinModule.blank, Workspace.start channel⟩

/-- Make a call; without a module at its place nothing happens. -/
def perform {P : Type} [Channel P] (capabilities : Capabilities) (call : Call)
    (assembly : Assembly P) : Except ModuleError Unit × Assembly P :=
  match assembly.modules[call.place]? with
  | none => (.ok (), assembly)
  | some model =>
    let (ended, next, workspace) := call.act.perform capabilities (model, assembly.workspace)
    (ended, ⟨assembly.modules.set call.place next, workspace⟩)

/-- The assembly after calls one after another, however they end. -/
def performAll {P : Type} [Channel P] (capabilities : Capabilities) (calls : List Call)
    (assembly : Assembly P) : Assembly P :=
  calls.foldl (fun current call => (perform capabilities call current).2) assembly

/-- What the module at a place was called for. -/
def acts (place : Nat) (calls : List Call) : List Act :=
  (calls.filter fun call => call.place = place).map Call.act

/-- The clock domains of the clock module whose software half was called last, none at first. -/
def placed (models : List BuiltinModule) (calls : List Call) : List ClockDomain :=
  (calls.filterMap fun call => models[call.place]?.bind call.act.placed?).getLastD []

/-- The assembly once the unit was sent a command. -/
def told (command : Command) (assembly : Assembly Loopback) : Assembly Loopback :=
  { assembly with workspace := { assembly.workspace with
      channel := assembly.workspace.channel.after [command] } }

variable {models : List BuiltinModule} {loopback : Loopback} {calls : List Call}
  {assembly : Assembly Loopback}

theorem perform_of_absent {P : Type} [Channel P] {assembly : Assembly P} {call : Call}
    (absent : assembly.modules[call.place]? = none) (capabilities : Capabilities) :
    perform capabilities call assembly = (.ok (), assembly) := by
  rw [perform, absent]

theorem perform_of_present {P : Type} [Channel P] {assembly : Assembly P} {call : Call}
    {model : BuiltinModule} (present : assembly.modules[call.place]? = some model)
    (capabilities : Capabilities) :
    perform capabilities call assembly =
      let after := call.act.perform capabilities (model, assembly.workspace)
      (after.1, ⟨assembly.modules.set call.place after.2.1, after.2.2⟩) := by
  rw [perform, present]

theorem acts_concat (place : Nat) (calls : List Call) (call : Call) :
    acts place (calls ++ [call]) =
      if call.place = place then acts place calls ++ [call.act] else acts place calls := by
  unfold acts
  split <;> rename_i here <;> simp [here]

theorem placed_concat (models : List BuiltinModule) (calls : List Call) (call : Call) :
    placed models (calls ++ [call]) =
      (models[call.place]?.bind call.act.placed?).getD (placed models calls) := by
  simp only [placed, List.filterMap_append, List.filterMap_cons, List.filterMap_nil]
  cases models[call.place]?.bind call.act.placed? <;> simp

/-- What holds of modules that share a workspace, by the calls made so far. -/
structure Tracks (models : List BuiltinModule) (loopback : Loopback) (calls : List Call)
    (assembly : Assembly Loopback) : Prop where
  length : assembly.modules.length = models.length
  standing : ∀ place model, models[place]? = some model →
    ∃ current, assembly.modules[place]? = some current ∧
      Standing loopback (acts place calls) model current
  channel : ∃ sent, assembly.workspace.channel = loopback.after sent
  clocks : assembly.workspace.clocks =
    Group.filled Group.smallCapacity ((placed models calls).take Group.smallCapacity)

theorem tracks_start (models : List BuiltinModule) (loopback : Loopback) :
    Tracks models loopback [] (start models loopback) where
  length := List.length_map _
  standing place model there :=
    ⟨model.blank, by simp [start, there], standing_blank loopback model⟩
  channel := ⟨[], (Loopback.after_nil loopback).symm⟩
  clocks := Group.empty_eq_filled _

theorem Tracks.consistent (tracks : Tracks models loopback calls assembly) :
    assembly.workspace.clocks.Consistent ∧
      assembly.workspace.clocks.capacity = Group.smallCapacity := by
  have fits := List.length_take_le Group.smallCapacity (placed models calls)
  rw [tracks.clocks]
  exact ⟨Group.consistent_filled fits, Group.capacity_filled fits⟩

/-- A call changes its own module, the clock group if it places clock domains, and what the unit
remembers. -/
theorem Tracks.perform (tracks : Tracks models loopback calls assembly)
    (capabilities : Capabilities) (call : Call) :
    Tracks models loopback (calls ++ [call]) (Assembly.perform capabilities call assembly).2 := by
  obtain ⟨consistent, small⟩ := tracks.consistent
  obtain ⟨length, standing, ⟨sent, channel⟩, clocks⟩ := tracks
  cases there : models[call.place]? with
  | none =>
    have absent : assembly.modules[call.place]? = none := by
      rw [List.getElem?_eq_none_iff] at there ⊢
      omega
    rw [perform_of_absent absent]
    refine ⟨length, fun place model present => ?_, ⟨sent, channel⟩, ?_⟩
    · have other : call.place ≠ place := by
        rintro rfl
        cases there.symm.trans present
      rw [acts_concat, if_neg other]
      exact standing place model present
    · rw [placed_concat, there]
      exact clocks
  | some model =>
    obtain ⟨current, present, stands⟩ := standing call.place model there
    obtain ⟨next, leaves⟩ := stands.act channel consistent small capabilities call.act
    rw [perform_of_present present]
    -- The call is one more act of its own module; the other modules keep their state and their acts.
    refine ⟨by simpa using length, fun place other found => ?_, leaves.channel, ?_⟩
    · rw [acts_concat]
      by_cases same : call.place = place
      · subst same
        obtain rfl := Option.some.inj (there.symm.trans found)
        have inside := (List.getElem?_eq_some_iff.mp present).1
        rw [if_pos rfl]
        exact ⟨_, by simp [inside], next⟩
      · rw [if_neg same, List.getElem?_set_ne same]
        exact standing place other found
    · rw [placed_concat, there, Option.bind_some]
      refine leaves.clocks.trans ?_
      cases call.act.placed? model with
      | none => exact clocks
      | some entries => rfl

theorem Tracks.performAll (capabilities : Capabilities) (later : List Call)
    (tracks : Tracks models loopback calls assembly) :
    Tracks models loopback (calls ++ later) (Assembly.performAll capabilities later assembly) := by
  induction later generalizing calls assembly with
  | nil => rwa [List.append_nil]
  | cons call rest ih =>
    rw [List.append_cons]
    exact ih (tracks.perform capabilities call)

theorem perform_of_kept {call : Call} {model : BuiltinModule} {capabilities : Capabilities}
    {ended : Except ModuleError Unit} {after : Workspace Loopback}
    (present : assembly.modules[call.place]? = some model)
    (kept : call.act.perform capabilities (model, assembly.workspace) = (ended, model, after)) :
    perform capabilities call assembly = (ended, { assembly with workspace := after }) := by
  obtain ⟨inside, same⟩ := List.getElem?_eq_some_iff.mp present
  rw [perform_of_present present, kept, ← same]
  simp only [List.set_getElem_self]

theorem Tracks.rejection? (tracks : Tracks models loopback calls assembly) (target : Target) :
    assembly.workspace.channel.rejection? target = loopback.rejection? target := by
  obtain ⟨sent, channel⟩ := tracks.channel
  rw [channel]
  rfl

/-- A second half that has a command sends just that; only the memory clock is changed by it. -/
theorem Tracks.asked (tracks : Tracks models loopback calls assembly) {place : Nat}
    {model : BuiltinModule} (present : assembly.modules[place]? = some model) {command : Command}
    (request : model.request? assembly.workspace.clocks = .ok (some command))
    (unmarked : model.programmed = model) (capabilities : Capabilities) :
    Assembly.perform capabilities ⟨place, .setUp .pmu⟩ assembly =
      (loopback.verdict command, told command assembly) := by
  apply perform_of_kept present
  rw [Act.perform_pmu, request]
  simp only [unmarked, ite_self, Loopback.verdict, tracks.rejection?]

theorem Tracks.software (tracks : Tracks models loopback calls assembly) {place : Nat}
    {model : BuiltinModule} (present : assembly.modules[place]? = some model)
    (capabilities : Capabilities) :
    let after := Assembly.perform capabilities ⟨place, .setUp .software⟩ assembly
    (after.1 = .ok () ↔ model.Fits) ∧
      after.2.workspace.channel = assembly.workspace.channel := by
  intro after
  obtain ⟨consistent, small⟩ := tracks.consistent
  have ended : after = _ := perform_of_present present capabilities
  rw [ended]
  simp only [Act.perform_software]
  cases model with
  | unit model => simp [BuiltinModule.ending_setUpSoftware_unit, BuiltinModule.Fits]
  | memoryClock model => simp [BuiltinModule.ending_setUpSoftware_memoryClock, BuiltinModule.Fits]
  | objects model =>
    rw [BuiltinModule.ending_setUpSoftware_objects, BuiltinModule.Fits]
    split <;> rename_i fits <;> simp [fits]
  | clocks model =>
    rw [BuiltinModule.ending_setUpSoftware_clocks _ _ _ consistent small, BuiltinModule.Fits]
    split <;> rename_i fits <;> simp [fits]

/-- Modules that share a workspace and a loopback with any failures, called in any order. The
clock group is that of the clock module whose software half was called last, as far as there is
room. A module of objects or of clock domains has its model exactly if that fits and was built
since the last release; only then its second half sends a command, one, with what is live at
that moment. -/
theorem performAll_contract (capabilities : Capabilities) (models : List BuiltinModule)
    (loopback : Loopback) (calls : List Call) :
    let now := performAll capabilities calls (start models loopback)
    let clocks := (placed models calls).take 32
    now.workspace.clocks.capacity = 32 ∧ now.workspace.clocks.mask.toList = List.range clocks.length ∧
    (∀ slot, now.workspace.clocks.get? slot = clocks[slot]?) ∧
    ∀ place model, models[place]? = some model →
      let software := perform capabilities ⟨place, .setUp .software⟩ now
      let pmu := perform capabilities ⟨place, .setUp .pmu⟩ now
      let built := Act.Since (.setUp .software) (acts place calls)
      (perform capabilities ⟨place, .free⟩ now).2.workspace = now.workspace ∧
      (software.1 = .ok () ↔ model.Fits) ∧
      software.2.workspace.channel = now.workspace.channel ∧
      match model with
      | .unit unit => ∃ reserved, now.modules[place]? = some (.unit ⟨unit.domain, reserved⟩) ∧
          (reserved = true ↔ built) ∧ pmu = (.ok (), now)
      | .objects model => ∃ objects,
          now.modules[place]? = some (.objects ⟨model.domain, model.count, objects⟩) ∧
          (objects.isSome = true ↔ model.count ≤ ObjectDomain.capacity model.domain ∧ built) ∧
          match objects with
          | none => pmu = (.error .notConstructed, now)
          | some group => group.capacity = ObjectDomain.capacity model.domain ∧
              (∀ slot, group.get? slot = if slot < model.count then some ⟨slot⟩ else none) ∧
              group.mask.toList = List.range model.count ∧
              pmu = (loopback.verdict (.setGroup model.domain group.mask),
                told (.setGroup model.domain group.mask) now)
      | .clocks model => ∃ constructed,
          now.modules[place]? = some (.clocks ⟨model.entries, constructed⟩) ∧
          (constructed = true ↔ model.entries.length ≤ 32 ∧ built) ∧
          pmu = if constructed then
              (loopback.verdict (.setGroup .clkDomain now.workspace.clocks.mask),
                told (.setGroup .clkDomain now.workspace.clocks.mask) now)
            else (.error .notConstructed, now)
      | .memoryClock _ => ∃ initialised shutdowns,
          now.modules[place]? = some (.memoryClock ⟨initialised, shutdowns⟩) ∧
          (initialised = true ↔ loopback.rejection? (.domain .mclk) = none ∧
            Act.Since (.setUp .pmu) (acts place calls)) ∧
          shutdowns.toNat = min ((acts place calls).count .free) (UInt32.size - 1) ∧
          pmu.1 = loopback.verdict .initMemoryClock ∧
          pmu.2.workspace = (told .initMemoryClock now).workspace := by
  intro now clocks
  have tracks : Tracks models loopback calls now :=
    (tracks_start models loopback).performAll capabilities calls
  clear_value now
  have fits : clocks.length ≤ 32 := List.length_take_le 32 _
  have group : now.workspace.clocks = Group.filled 32 clocks := tracks.clocks
  refine ⟨tracks.consistent.2, ?_, fun slot => ?_, fun place model there => ?_⟩
  · rw [group]
    exact SlotMask.toList_lowest fits
  · rw [group, Group.get?_filled]
  intro software pmu built
  obtain ⟨current, present, standing⟩ := tracks.standing place model there
  obtain ⟨ended, channel⟩ := tracks.software present capabilities
  refine ⟨?_, ended.trans ?_, channel, ?_⟩
  · rw [perform_of_present present, Act.perform_free]
  · cases standing <;> exact Iff.rfl
  cases standing with
  | unit marked => exact ⟨_, present, marked, perform_of_kept present rfl⟩
  | @built domain count _ fits since =>
    refine ⟨_, present, by simp [fits, since, built], ?_, fun slot => ?_, ?_,
      tracks.asked present rfl rfl capabilities⟩
    · exact Group.capacity_filled (by simpa using fits)
    · rw [ObjectDomain.built, Group.get?_filled, List.getElem?_map]
      by_cases low : slot < count <;> simp [low]
    · rw [ObjectDomain.built, Group.filled, List.length_map, List.length_range]
      exact SlotMask.toList_lowest fits
  | unbuilt missing =>
    exact ⟨_, present, by simpa using missing, perform_of_kept present rfl⟩
  | @clocks _ _ constructed marked =>
    refine ⟨_, present, marked, ?_⟩
    cases constructed with
    | false => exact perform_of_kept present rfl
    | true => exact tracks.asked present rfl rfl capabilities
  | memoryClock marked counted =>
    refine ⟨_, _, present, marked, counted, ?_⟩
    have asked : pmu = _ := perform_of_present present capabilities
    rw [asked, Act.perform_pmu]
    simp only [BuiltinModule.request?, Loopback.verdict, tracks.rejection?]
    exact ⟨trivial, rfl⟩

end Assembly

end PerfStates
