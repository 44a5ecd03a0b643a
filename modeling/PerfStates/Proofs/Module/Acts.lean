import PerfStates.Proofs.Module.Configured
import PerfStates.Proofs.Pmu.Loopback

namespace PerfStates

/-- How the unit answers a module that sends a command. -/
def Loopback.verdict (loopback : Loopback) (command : Command) : Except ModuleError Unit :=
  match loopback.rejection? command.target with
  | some status => .error (.channel (.rejected (some status)))
  | none => .ok ()

/-- What a module can be called for. -/
inductive Act
  | setUp (phase : Phase)
  | free
deriving DecidableEq

namespace Act

/-- Call a module for an act, with the workspace that it shares. -/
def perform {P : Type} [Channel P] (capabilities : Capabilities) :
    Act → BuiltinModule × Workspace P → Except ModuleError Unit × BuiltinModule × Workspace P
  | .setUp phase, both => (DomainModule.setUp phase capabilities).ending both
  | .free, (model, workspace) => (.ok (), (DomainModule.free model).state, workspace)

/-- The clock domains that an act puts into the shared group, as far as there is room. -/
def placed? : Act → BuiltinModule → Option (List ClockDomain)
  | .setUp .software, .clocks model => some model.entries
  | _, _ => none

/-- Whether `act` is among the acts and no release is behind it. -/
def Since (act : Act) (acts : List Act) : Prop :=
  ∃ before after, acts = before ++ act :: after ∧ .free ∉ after

theorem not_since_nil (act : Act) : ¬ Since act [] := by
  rintro ⟨before, after, split, _⟩
  exact List.cons_ne_nil _ _ (List.append_eq_nil_iff.mp split.symm).2

/-- The last act is the one, or it is no release and the act was there before. -/
theorem since_concat {act last : Act} {acts : List Act} :
    Since act (acts ++ [last]) ↔ last = act ∨ last ≠ .free ∧ Since act acts := by
  constructor
  · rintro ⟨before, after, split, kept⟩
    rcases List.eq_nil_or_concat after with rfl | ⟨earlier, final, rfl⟩
    · exact .inl (List.cons.inj (List.append_inj' split rfl).2).1
    · have regrouped : acts ++ [last] = (before ++ act :: earlier) ++ [final] := by
        simpa using split
      obtain ⟨rfl, same⟩ := List.append_inj' regrouped rfl
      obtain rfl := (List.cons.inj same).1
      rw [List.concat_eq_append, List.mem_append, List.mem_singleton, not_or] at kept
      exact .inr ⟨Ne.symm kept.2, before, earlier, rfl, kept.1⟩
  · rintro (rfl | ⟨kept, before, after, rfl, others⟩)
    · exact ⟨acts, [], rfl, List.not_mem_nil⟩
    · refine ⟨before, after ++ [last], by simp, ?_⟩
      simp [others, Ne.symm kept]

variable (capabilities : Capabilities) (model : BuiltinModule) (workspace : Workspace Loopback)

theorem perform_software (both : BuiltinModule × Workspace Loopback) :
    (Act.setUp .software).perform capabilities both =
      (DomainModule.setUpSoftware capabilities).ending both := rfl

theorem perform_pmu :
    (Act.setUp .pmu).perform capabilities (model, workspace) =
      match model.request? workspace.clocks with
      | .error cause => (.error cause, model, workspace)
      | .ok none => (.ok (), model, workspace)
      | .ok (some command) =>
        (workspace.channel.verdict command,
          if workspace.channel.rejection? command.target = none then model.programmed else model,
          { workspace with channel := workspace.channel.after [command] }) := by
  change (DomainModule.setUpPmu capabilities).ending (model, workspace) = _
  rw [BuiltinModule.ending_setUpPmu]
  rcases model.request? workspace.clocks with cause | _ | command
  · rfl
  · rfl
  · simp only [Workspace.ending_send, Loopback.ending_exchange, Loopback.verdict]
    cases workspace.channel.rejection? command.target <;> rfl

theorem perform_free :
    Act.free.perform capabilities (model, workspace) = (.ok (), model.released, workspace) := by
  rw [perform, BuiltinModule.state_free]

end Act

namespace MemoryClock

theorem toNat_countShutdown (shutdowns : UInt32) :
    (countShutdown shutdowns).toNat = min (shutdowns.toNat + 1) (UInt32.size - 1) := by
  unfold countShutdown
  split
  · rename_i largest
    rw [largest]
    rfl
  · rename_i smaller
    have below : shutdowns.toNat ≠ UInt32.size - 1 := fun same =>
      smaller (UInt32.toNat_inj.mp same)
    have bound := shutdowns.toNat_lt_size
    simp only [UInt32.size] at below bound ⊢
    rw [UInt32.toNat_add, UInt32.toNat_one, Nat.mod_eq_of_lt (by omega)]
    omega

end MemoryClock

namespace BuiltinModule

/-- Whether there is room for what the software half of the module builds. -/
def Fits : BuiltinModule → Prop
  | unit _ => True
  | objects model => model.count ≤ ObjectDomain.capacity model.domain
  | clocks model => model.entries.length ≤ Group.smallCapacity
  | memoryClock _ => True

/-- What a module has become, by what it was called for. -/
inductive Standing (loopback : Loopback) (acts : List Act) :
    BuiltinModule → BuiltinModule → Prop where
  | unit {domain : Domain} {before reserved : Bool}
      (marked : reserved = true ↔ Act.Since (.setUp .software) acts) :
    Standing loopback acts (.unit ⟨domain, before⟩) (.unit ⟨domain, reserved⟩)
  | built {domain : Domain} {count : Nat} {before : Option (Group ModelObject)}
      (fits : count ≤ ObjectDomain.capacity domain) (since : Act.Since (.setUp .software) acts) :
    Standing loopback acts (.objects ⟨domain, count, before⟩)
      (.objects ⟨domain, count, some (ObjectDomain.built domain count)⟩)
  | unbuilt {domain : Domain} {count : Nat} {before : Option (Group ModelObject)}
      (missing : ¬ (count ≤ ObjectDomain.capacity domain ∧
        Act.Since (.setUp .software) acts)) :
    Standing loopback acts (.objects ⟨domain, count, before⟩) (.objects ⟨domain, count, none⟩)
  | clocks {entries : List ClockDomain} {before constructed : Bool}
      (marked : constructed = true ↔
        entries.length ≤ Group.smallCapacity ∧ Act.Since (.setUp .software) acts) :
    Standing loopback acts (.clocks ⟨entries, before⟩) (.clocks ⟨entries, constructed⟩)
  | memoryClock {before : MemoryClock} {initialised : Bool} {shutdowns : UInt32}
      (marked : initialised = true ↔
        loopback.rejection? (.domain .mclk) = none ∧ Act.Since (.setUp .pmu) acts)
      (counted : shutdowns.toNat = min (acts.count .free) (UInt32.size - 1)) :
    Standing loopback acts (.memoryClock before) (.memoryClock ⟨initialised, shutdowns⟩)

variable {loopback : Loopback} {acts : List Act} {model current : BuiltinModule}

theorem standing_blank (loopback : Loopback) (model : BuiltinModule) :
    Standing loopback [] model model.blank := by
  have none (act : Act) : ¬ Act.Since act [] := Act.not_since_nil act
  cases model with
  | unit model => exact .unit (by simp [none])
  | objects model => exact .unbuilt fun both => none _ both.2
  | clocks model => exact .clocks (by simp [none])
  | memoryClock model => exact .memoryClock (by simp [none]) rfl

/-- How an act of a module leaves the workspace: the unit remembers more at most, and the clock
group is replaced if the act is to place clock domains. -/
structure Leaves (loopback : Loopback) (placed? : Option (List ClockDomain))
    (workspace after : Workspace Loopback) : Prop where
  channel : ∃ sent, after.channel = loopback.after sent
  clocks : after.clocks = match placed? with
    | some entries => Group.filled Group.smallCapacity (entries.take Group.smallCapacity)
    | none => workspace.clocks

/-- A software half builds the model if it fits; a clock module replaces the clock group even if
it does not. -/
theorem Standing.software (standing : Standing loopback acts model current)
    {workspace : Workspace Loopback} {sent : List Command}
    (channel : workspace.channel = loopback.after sent)
    (consistent : workspace.clocks.Consistent)
    (small : workspace.clocks.capacity = Group.smallCapacity) (capabilities : Capabilities) :
    let after := (Act.setUp .software).perform capabilities (current, workspace)
    Standing loopback (acts ++ [.setUp .software]) model after.2.1 ∧
      Leaves loopback ((Act.setUp .software).placed? model) workspace after.2.2 := by
  intro after
  have since : Act.Since (.setUp .software) (acts ++ [.setUp .software]) :=
    Act.since_concat.mpr (.inl rfl)
  have same {other : Act} (different : other ≠ .setUp .software) :
      Act.Since other (acts ++ [.setUp .software]) ↔ Act.Since other acts := by
    simp [Act.since_concat, Ne.symm different]
  cases standing with
  | unit marked =>
    exact ⟨.unit (by simp [since]), ⟨sent, channel⟩, rfl⟩
  | built fits earlier =>
    have ended : after = _ := ending_setUpSoftware_objects capabilities workspace _
    rw [if_pos fits] at ended
    rw [ended]
    exact ⟨.built fits since, ⟨sent, channel⟩, rfl⟩
  | @unbuilt domain count _ missing =>
    have ended : after = _ := ending_setUpSoftware_objects capabilities workspace _
    by_cases fits : count ≤ ObjectDomain.capacity domain
    · rw [if_pos fits] at ended
      rw [ended]
      exact ⟨.built fits since, ⟨sent, channel⟩, rfl⟩
    · rw [if_neg fits] at ended
      rw [ended]
      exact ⟨.unbuilt fun both => fits both.1, ⟨sent, channel⟩, rfl⟩
  | @clocks entries _ constructed marked =>
    have ended : after = _ :=
      ending_setUpSoftware_clocks capabilities workspace _ consistent small
    by_cases fits : entries.length ≤ Group.smallCapacity
    · rw [if_pos fits] at ended
      rw [ended]
      refine ⟨.clocks (by simp [fits, since]), ⟨sent, channel⟩, ?_⟩
      simp only [Act.placed?, List.take_of_length_le fits]
    · rw [if_neg fits] at ended
      rw [ended]
      exact ⟨.clocks (by simpa [fits] using marked), ⟨sent, channel⟩, rfl⟩
  | memoryClock marked counted =>
    refine ⟨.memoryClock ?_ ?_, ⟨sent, channel⟩, rfl⟩
    · rw [same (by decide), marked]
    · simpa using counted

theorem Standing.pmu (standing : Standing loopback acts model current)
    {workspace : Workspace Loopback} {sent : List Command}
    (channel : workspace.channel = loopback.after sent) (capabilities : Capabilities) :
    let after := (Act.setUp .pmu).perform capabilities (current, workspace)
    Standing loopback (acts ++ [.setUp .pmu]) model after.2.1 ∧
      Leaves loopback none workspace after.2.2 := by
  intro after
  have ended : after = _ := Act.perform_pmu capabilities current workspace
  have same : Act.Since (.setUp .software) (acts ++ [.setUp .pmu]) ↔
      Act.Since (.setUp .software) acts := by
    simp [Act.since_concat]
  have told (command : Command) :
      Leaves loopback none workspace
        { workspace with channel := workspace.channel.after [command] } :=
    ⟨⟨sent ++ [command], by rw [channel, Loopback.after_after]⟩, rfl⟩
  rw [ended]
  cases standing with
  | unit marked => exact ⟨.unit (by rw [same, marked]), ⟨sent, channel⟩, rfl⟩
  | built fits since =>
    simp only [request?, programmed, ite_self]
    exact ⟨.built fits (same.mpr since), told _⟩
  | unbuilt missing =>
    exact ⟨.unbuilt (by rwa [same]), ⟨sent, channel⟩, rfl⟩
  | @clocks entries _ constructed marked =>
    cases constructed with
    | false => exact ⟨.clocks (by rw [same, marked]), ⟨sent, channel⟩, rfl⟩
    | true =>
      simp only [request?, ↓reduceIte, programmed, ite_self]
      exact ⟨.clocks (by rw [same, marked]), told _⟩
  | memoryClock marked counted =>
    have asked : Act.Since (.setUp .pmu) (acts ++ [.setUp .pmu]) :=
      Act.since_concat.mpr (.inl rfl)
    have answer : workspace.channel.rejection? Command.initMemoryClock.target =
        loopback.rejection? (.domain .mclk) := by rw [channel]; rfl
    have uncounted : (acts ++ [Act.setUp .pmu]).count .free = acts.count .free := by simp
    rw [← uncounted] at counted
    simp only [request?, programmed, answer]
    split
    · rename_i accepted
      exact ⟨.memoryClock (by simp [accepted, asked]) counted, told _⟩
    · rename_i rejected
      exact ⟨.memoryClock (by simpa [rejected] using marked) counted, told _⟩

theorem Standing.free (standing : Standing loopback acts model current) :
    Standing loopback (acts ++ [.free]) model current.released := by
  have gone {act : Act} (other : act ≠ .free) : ¬ Act.Since act (acts ++ [.free]) := by
    simp [Act.since_concat, Ne.symm other]
  cases standing with
  | unit marked => exact .unit (by simp [gone])
  | built fits since => exact .unbuilt fun both => gone (by decide) both.2
  | unbuilt missing => exact .unbuilt fun both => gone (by decide) both.2
  | clocks marked => exact .clocks (by simp [gone])
  | memoryClock marked counted =>
    exact .memoryClock (by simp [gone]) (by
      rw [MemoryClock.toNat_countShutdown, counted, List.count_append, List.count_singleton_self]
      omega)

/-- Whatever a module is called for, its state is told by what it was called for. -/
theorem Standing.act (standing : Standing loopback acts model current)
    {workspace : Workspace Loopback} {sent : List Command}
    (channel : workspace.channel = loopback.after sent)
    (consistent : workspace.clocks.Consistent)
    (small : workspace.clocks.capacity = Group.smallCapacity) (capabilities : Capabilities)
    (act : Act) :
    let after := act.perform capabilities (current, workspace)
    Standing loopback (acts ++ [act]) model after.2.1 ∧
      Leaves loopback (act.placed? model) workspace after.2.2 := by
  cases act with
  | setUp phase =>
    cases phase with
    | software => exact standing.software channel consistent small capabilities
    | pmu => exact standing.pmu channel capabilities
  | free =>
    rw [Act.perform_free]
    exact ⟨standing.free, ⟨sent, channel⟩, rfl⟩

end BuiltinModule

end PerfStates
