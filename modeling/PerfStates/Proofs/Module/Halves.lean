import PerfStates.Module.Builtin
import PerfStates.Proofs.Board.Filled
import PerfStates.Proofs.Ending

namespace PerfStates

namespace ObjectDomain

/-- The group of a domain once its objects are built. -/
def built (domain : Domain) (count : Nat) : Group ModelObject :=
  Group.filled (capacity domain) ((List.range count).map ModelObject.mk)

theorem capacity_lt_limit (domain : Domain) : capacity domain < Group.capacityLimit := by
  unfold capacity
  split <;> decide

theorem build_of_fits {domain : Domain} {count : Nat} (fits : count ≤ capacity domain) :
    build (capacity domain) count = .ok (built domain count) := by
  have reserved : Group.reserve (capacity domain) =
      .ok (Group.filled (capacity domain) ([] : List ModelObject)) := by
    rw [Group.reserve, if_pos (capacity_lt_limit domain), Group.empty_eq_filled]
  simp only [build, built, reserved]
  change (List.range count).foldlM _ _ = _
  induction count with
  | zero => rfl
  | succ count ih =>
    rw [List.range_succ, List.foldlM_append, ih (by omega), List.map_append]
    have inserted := Group.insert_filled (capacity domain) ((List.range count).map ModelObject.mk)
      ⟨count⟩ (by simp; omega)
    rw [List.length_map, List.length_range, if_pos (by omega)] at inserted
    simp [inserted, bind, Except.bind, pure, Except.pure]

end ObjectDomain

namespace ClockModule

variable {P : Type}

theorem ending_place (rest placed : List ClockDomain) (workspace : Workspace P)
    (fits : placed.length ≤ Group.smallCapacity)
    (clocks : workspace.clocks = Group.filled Group.smallCapacity placed) :
    (place placed.length rest).ending workspace =
      (if placed.length + rest.length ≤ Group.smallCapacity then .ok ()
        else .error (.group (.outOfRange Group.smallCapacity Group.smallCapacity)),
        { workspace with
          clocks :=
            Group.filled Group.smallCapacity ((placed ++ rest).take Group.smallCapacity) }) := by
  induction rest generalizing placed workspace with
  | nil =>
    rw [List.append_nil, List.take_of_length_le fits, ← clocks, List.length_nil, Nat.add_zero,
      if_pos fits]
    rfl
  | cons domain rest ih =>
    have inserted := Group.insert_filled Group.smallCapacity placed domain fits
    simp only [place, Attempt.ending_bind, Attempt.ending_log, Attempt.ending_get,
      Attempt.ending_mapError, Attempt.ending_ofExcept, clocks, inserted, Attempt.ending_modify]
    by_cases room : placed.length < Group.smallCapacity
    · have next := ih (placed ++ [domain])
        { workspace with clocks := Group.filled Group.smallCapacity (placed ++ [domain]) }
        (by simpa using Nat.succ_le_of_lt room) rfl
      rw [List.length_append, List.length_singleton, List.append_assoc] at next
      simp only [room, ↓reduceIte, mapError_ok, next, List.length_cons, List.singleton_append]
      rw [Nat.add_assoc, Nat.add_comm 1]
    · have full : placed.length = Group.smallCapacity := by omega
      simp only [room, ↓reduceIte, mapError_error]
      rw [if_neg (by simp; omega), List.take_append_of_le_length (by omega),
        List.take_of_length_le fits, ← clocks, full]

/-- The clock group is emptied, then filled with the entries that it has room for. -/
theorem ending_setUpSoftware [Channel P] (capabilities : Capabilities) (workspace : Workspace P)
    (model : ClockModule) (consistent : workspace.clocks.Consistent)
    (small : workspace.clocks.capacity = Group.smallCapacity) :
    (DomainModule.setUpSoftware capabilities).ending (model, workspace) =
      if model.entries.length ≤ Group.smallCapacity then
        (.ok (), { model with constructed := true },
          { workspace with clocks := Group.filled Group.smallCapacity model.entries })
      else
        (.error (.group (.outOfRange Group.smallCapacity Group.smallCapacity)), model,
          { workspace with
            clocks :=
              Group.filled Group.smallCapacity (model.entries.take Group.smallCapacity) }) := by
  have cleared : workspace.clocks.clear = Group.filled Group.smallCapacity [] := by
    rw [consistent.clear_eq, small, Group.empty_eq_filled]
  have placed := ending_place model.entries []
    { workspace with clocks := workspace.clocks.clear } (Nat.zero_le _) cleared
  simp only [List.length_nil, Nat.zero_add, List.nil_append] at placed
  simp only [DomainModule.setUpSoftware, DomainModule.own, DomainModule.shared,
    Attempt.ending_onPart, Attempt.ending_bind, Attempt.ending_get, Attempt.ending_modify, placed]
  by_cases fits : model.entries.length ≤ Group.smallCapacity
  · simp [fits, List.take_of_length_le fits]
  · simp [fits]

end ClockModule

theorem Workspace.ending_send {P : Type} [Channel P] (command : Command)
    (workspace : Workspace P) :
    (Workspace.send command).ending workspace =
      let (answer, channel) := (Channel.exchange command).ending workspace.channel
      ((answer.mapError ModuleError.channel).map fun _ => (), { workspace with channel }) := by
  simp only [send, Attempt.ending_bind, Attempt.ending_mapError, Attempt.ending_onPart,
    Attempt.ending_pure]
  cases ((Channel.exchange command).ending workspace.channel).1 <;> rfl

namespace BuiltinModule

theorem ending_inside {P K ε α : Type} (wrap : K → BuiltinModule) (model : K)
    (attempt : Attempt Message (K × Workspace P) ε α) (outside : BuiltinModule)
    (workspace : Workspace P) :
    (inside wrap model attempt).ending (outside, workspace) =
      let (ended, next, after) := attempt.ending (model, workspace)
      (ended, wrap next, after) := rfl

variable {P : Type} [Channel P] (capabilities : Capabilities) (workspace : Workspace P)

theorem ending_setUpSoftware_unit (model : FoundationUnit) :
    (DomainModule.setUpSoftware capabilities).ending (unit model, workspace) =
      (.ok (), unit { model with reserved := true }, workspace) := rfl

theorem ending_setUpSoftware_objects (model : ObjectDomain) :
    (DomainModule.setUpSoftware capabilities).ending (objects model, workspace) =
      if model.count ≤ ObjectDomain.capacity model.domain then
        (.ok (), objects { model with
          objects := some (ObjectDomain.built model.domain model.count) }, workspace)
      else
        let capacity := ObjectDomain.capacity model.domain
        (.error (.invalid s!"{model.count} objects exceed group capacity {capacity}"),
          objects model, workspace) := by
  change (inside objects model (DomainModule.setUpSoftware capabilities)).ending
    (objects model, workspace) = _
  rw [ending_inside]
  simp only [DomainModule.setUpSoftware, DomainModule.own, Attempt.ending_onPart,
    Attempt.ending_bind, Attempt.ending_get]
  by_cases fits : model.count ≤ ObjectDomain.capacity model.domain
  · have small : ¬ ObjectDomain.capacity model.domain < model.count := Nat.not_lt.mpr fits
    simp [fits, small, ObjectDomain.build_of_fits fits]
  · have large : ObjectDomain.capacity model.domain < model.count := Nat.lt_of_not_le fits
    simp [fits, large]

theorem ending_setUpSoftware_clocks (model : ClockModule) (consistent : workspace.clocks.Consistent)
    (small : workspace.clocks.capacity = Group.smallCapacity) :
    (DomainModule.setUpSoftware capabilities).ending (clocks model, workspace) =
      if model.entries.length ≤ Group.smallCapacity then
        (.ok (), clocks { model with constructed := true },
          { workspace with clocks := Group.filled Group.smallCapacity model.entries })
      else
        (.error (.group (.outOfRange Group.smallCapacity Group.smallCapacity)), clocks model,
          { workspace with
            clocks :=
              Group.filled Group.smallCapacity (model.entries.take Group.smallCapacity) }) := by
  change (inside clocks model (DomainModule.setUpSoftware capabilities)).ending
    (clocks model, workspace) = _
  rw [ending_inside, ClockModule.ending_setUpSoftware capabilities workspace model consistent small]
  by_cases fits : model.entries.length ≤ Group.smallCapacity
  · rw [if_pos fits, if_pos fits]
  · rw [if_neg fits, if_neg fits]

theorem ending_setUpSoftware_memoryClock (model : MemoryClock) :
    (DomainModule.setUpSoftware capabilities).ending (memoryClock model, workspace) =
      (.ok (), memoryClock model, workspace) := rfl

/-- What the second half of a module asks of the unit, given the shared clock group: nothing, or
one command. A model that was not built has nothing to ask for. -/
def request? (group : Group ClockDomain) : BuiltinModule → Except ModuleError (Option Command)
  | unit _ => .ok none
  | objects model =>
    match model.objects with
    | none => .error .notConstructed
    | some held => .ok (some (.setGroup model.domain held.mask))
  | clocks model =>
    if model.constructed then .ok (some (.setGroup .clkDomain group.mask))
    else .error .notConstructed
  | memoryClock _ => .ok (some .initMemoryClock)

/-- The module once the unit has acknowledged its command. -/
def programmed : BuiltinModule → BuiltinModule
  | memoryClock model => memoryClock { model with initialised := true }
  | model => model

/-- The second half of a module sends its command, if it has one, and keeps its model. -/
theorem ending_setUpPmu (model : BuiltinModule) :
    (DomainModule.setUpPmu capabilities).ending (model, workspace) =
      match model.request? workspace.clocks with
      | .error cause => (.error cause, model, workspace)
      | .ok none => (.ok (), model, workspace)
      | .ok (some command) =>
        match (Workspace.send command).ending workspace with
        | (.ok (), after) => (.ok (), model.programmed, after)
        | (.error cause, after) => (.error cause, model, after) := by
  cases model with
  | unit model => rfl
  | objects model =>
    change (inside objects model (DomainModule.setUpPmu capabilities)).ending
      (objects model, workspace) = _
    rw [ending_inside]
    simp only [DomainModule.setUpPmu, DomainModule.shared, Attempt.ending_bind,
      Attempt.ending_get, request?]
    cases model.objects with
    | none => rfl
    | some group =>
      simp only [Attempt.ending_onPart]
      rcases (Workspace.send (.setGroup model.domain group.mask)).ending workspace with
        ⟨_ | ⟨⟨⟩⟩, after⟩ <;> rfl
  | clocks model =>
    change (inside clocks model (DomainModule.setUpPmu capabilities)).ending
      (clocks model, workspace) = _
    rw [ending_inside]
    simp only [DomainModule.setUpPmu, DomainModule.shared, Attempt.ending_bind,
      Attempt.ending_get, request?]
    cases model.constructed with
    | false => rfl
    | true =>
      simp only [↓reduceIte, Attempt.ending_onPart]
      rcases (Workspace.send (.setGroup .clkDomain workspace.clocks.mask)).ending workspace with
        ⟨_ | ⟨⟨⟩⟩, after⟩ <;> rfl
  | memoryClock model =>
    change (inside memoryClock model (DomainModule.setUpPmu capabilities)).ending
      (memoryClock model, workspace) = _
    rw [ending_inside]
    simp only [DomainModule.setUpPmu, DomainModule.own, DomainModule.shared,
      Attempt.ending_onPart, Attempt.ending_bind, Attempt.ending_modify, request?]
    rcases (Workspace.send .initMemoryClock).ending workspace with ⟨_ | ⟨⟨⟩⟩, after⟩ <;> rfl

/-- The module once it is released. -/
def released : BuiltinModule → BuiltinModule
  | unit model => unit { model with reserved := false }
  | objects model => objects { model with objects := none }
  | clocks model => clocks { model with constructed := false }
  | memoryClock model => memoryClock ⟨false, MemoryClock.countShutdown model.shutdowns⟩

theorem state_free (model : BuiltinModule) : (DomainModule.free model).state = model.released := by
  cases model with
  | unit model =>
    obtain ⟨domain, reserved⟩ := model
    cases reserved <;> rfl
  | objects model => rfl
  | clocks model => rfl
  | memoryClock model => rfl

end BuiltinModule

end PerfStates
