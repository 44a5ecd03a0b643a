import PerfStates.Proofs.Bringup.Built
import PerfStates.Proofs.Pmu.Loopback

namespace PerfStates

namespace Loopback

/-- Whether a command ends the second phase: it is rejected and not for the memory clock. -/
def stops (loopback : Loopback) (command : Command) : Bool :=
  command.target ≠ .domain .mclk && (loopback.rejection? command.target).isSome

/-- How sending commands in order ends, and which of them are sent: all, or those up to the
first that stops the phase. -/
def Sends (loopback : Loopback) (commands : List Command) (ended : Except Failure Unit)
    (sent : List Command) : Prop :=
  match commands.findIdx? loopback.stops with
  | none => ended = .ok () ∧ sent = commands
  | some position => ∃ command status, commands[position]? = some command ∧
      loopback.rejection? command.target = some status ∧
      ended = .error (command.refusal (.rejected (some status))) ∧
      sent = commands.take (position + 1)

theorem sends_nil (loopback : Loopback) : loopback.Sends [] (.ok ()) [] := ⟨rfl, rfl⟩

theorem sends_stop {loopback : Loopback} {command : Command} {status : UInt32}
    (other : command.target ≠ .domain .mclk)
    (rejected : loopback.rejection? command.target = some status) (rest : List Command) :
    loopback.Sends (command :: rest) (.error (command.refusal (.rejected (some status))))
      [command] := by
  have stops : loopback.stops command = true := by simp [Loopback.stops, other, rejected]
  simp only [Sends, List.findIdx?_cons, stops, ↓reduceIte]
  exact ⟨command, status, rfl, rejected, rfl, rfl⟩

theorem Sends.cons {loopback : Loopback} {command : Command} {rest sent : List Command}
    {ended : Except Failure Unit} (goes : loopback.stops command = false)
    (sends : loopback.Sends rest ended sent) :
    loopback.Sends (command :: rest) ended (command :: sent) := by
  unfold Sends at sends ⊢
  simp only [List.findIdx?_cons, goes, Bool.false_eq_true, ↓reduceIte]
  cases found : rest.findIdx? loopback.stops with
  | none =>
    simp only [found] at sends
    obtain ⟨rfl, rfl⟩ := sends
    exact ⟨rfl, rfl⟩
  | some position =>
    simp only [found] at sends
    obtain ⟨blocking, status, there, listed, rfl, rfl⟩ := sends
    exact ⟨blocking, status, by simpa using there, listed, rfl, rfl⟩

/-- Commands that do not stop the phase are all sent. -/
theorem Sends.of_free {loopback : Loopback} {commands sent : List Command}
    {ended : Except Failure Unit} (sends : loopback.Sends commands ended sent)
    (free : ∀ command ∈ commands, loopback.stops command = false) :
    ended = .ok () ∧ sent = commands := by
  have none : commands.findIdx? loopback.stops = none := List.findIdx?_eq_none_iff.mpr free
  rw [Sends, none] at sends
  exact sends

theorem Sends.free_of_ok {loopback : Loopback} {commands sent : List Command}
    (sends : loopback.Sends commands (.ok ()) sent) :
    ∀ command ∈ commands, loopback.stops command = false := by
  rw [← List.findIdx?_eq_none_iff]
  unfold Sends at sends
  split at sends
  · assumption
  · obtain ⟨_, _, _, _, refused, _⟩ := sends
    cases refused

end Loopback

namespace Config

/-- The commands that the enabled steps of a sequence send, in order. -/
def commands (config : Config) (sequence : List (Gated PmuStep)) : List Command :=
  (Sequence.enabled config.capabilities sequence).filterMap config.command?

theorem commands_pmu (config : Config) :
    config.commands Sequence.pmu =
      (if config.memoryClock then [.initMemoryClock] else []) ++
        config.commands Sequence.binding := by
  rw [commands, Sequence.pmu_eq, Sequence.enabled_cons_of_enabled rfl, List.filterMap_cons]
  cases there : config.memoryClock <;> simp [command?, there, commands]

end Config

namespace Support

variable {config : Config} {image : Option (List UInt8)} {support : Support BuiltinModule Loopback}

theorem Built.ending_pmuSteps (sequence : List (Gated PmuStep))
    (within : ∀ gated ∈ sequence, gated ∈ Sequence.binding) (built : Built config image support) :
    ∃ sent, support.workspace.channel.Sends (config.commands sequence)
        ((pmuSteps sequence).ending support).1 sent ∧
      ((pmuSteps sequence).ending support).2 =
        support.withChannel (support.workspace.channel.after sent) := by
  induction sequence generalizing support with
  | nil => exact ⟨[], Loopback.sends_nil _, by rw [Loopback.after_nil]; rfl⟩
  | cons gated rest ih =>
    obtain ⟨member, within⟩ := List.forall_mem_cons.mp within
    cases on : gated.enabled config.capabilities with
    | false =>
      have same : config.commands (gated :: rest) = config.commands rest := by
        rw [Config.commands, Sequence.enabled_cons_of_disabled on]
        rfl
      rw [same, ending_pmuSteps_of_disabled (built.capabilities ▸ on)]
      exact ih within built
    | true =>
      obtain ⟨command, sends, other, ended⟩ := built.ending_pmuStep member on
      have commands : config.commands (gated :: rest) = command :: config.commands rest := by
        rw [Config.commands, Sequence.enabled_cons_of_enabled on, List.filterMap_cons_some sends]
        rfl
      rw [Loopback.ending_exchange] at ended
      rw [commands, ending_pmuSteps_of_enabled (built.capabilities ▸ on)]
      cases rejected : support.workspace.channel.rejection? command.target with
      | some status =>
        simp only [rejected] at ended
        rw [ended]
        exact ⟨[command], Loopback.sends_stop other rejected _, rfl⟩
      | none =>
        simp only [rejected] at ended
        rw [ended]
        obtain ⟨sent, later, left⟩ :=
          ih within (built.withChannel (support.workspace.channel.after [command]))
        exact ⟨command :: sent, .cons (by simp [Loopback.stops, rejected]) later,
          by rw [left, channel_withChannel, Loopback.after_after]; rfl⟩

theorem Built.ending_pmu (built : Built config image support) :
    let loopback := support.workspace.channel
    ∃ sent, loopback.Sends (config.commands Sequence.pmu)
        ((pmuSteps Sequence.pmu).ending support).1 sent ∧
      ((pmuSteps Sequence.pmu).ending support).2 = { support.withChannel (loopback.after sent) with
        modules :=
          if config.memoryClock && (loopback.rejection? (.domain .mclk)).isNone then
            support.modules.insert .mclk (.memoryClock ⟨true, 0⟩)
          else support.modules } := by
  intro loopback
  have onward {next : Support BuiltinModule Loopback}
      (first : (pmuStep (.bestEffort .mclk)).ending support = (.ok (), next)) :
      (pmuSteps Sequence.pmu).ending support = (pmuSteps Sequence.binding).ending next := by
    rw [Sequence.pmu_eq, ending_pmuSteps_of_enabled rfl, first]
  have clock := built.ending_memoryClock
  rw [Loopback.ending_exchange] at clock
  cases there : config.memoryClock with
  | false =>
    simp only [there, Bool.false_eq_true, ↓reduceIte] at clock
    rw [onward clock, Config.commands_pmu, there]
    obtain ⟨sent, sends, left⟩ := built.ending_pmuSteps Sequence.binding fun _ => id
    exact ⟨sent, sends, left⟩
  | true =>
    -- Rejected or not, the memory clock lets the phase go on; only its own module differs.
    have goes : loopback.stops .initMemoryClock = false := rfl
    have asked : Command.initMemoryClock.target = .domain .mclk := rfl
    simp only [there, ↓reduceIte, asked] at clock
    rw [Config.commands_pmu, there]
    cases rejected : support.workspace.channel.rejection? (.domain .mclk) with
    | some status =>
      simp only [rejected] at clock
      obtain ⟨sent, sends, left⟩ :=
        (built.withChannel (loopback.after [.initMemoryClock])).ending_pmuSteps
          Sequence.binding fun _ => id
      rw [onward clock]
      exact ⟨.initMemoryClock :: sent, .cons goes sends, by
        rw [left, channel_withChannel, Loopback.after_after]; rfl⟩
    | none =>
      simp only [rejected] at clock
      obtain ⟨sent, sends, left⟩ :=
        ((built.withChannel (loopback.after [.initMemoryClock])).withMemoryClock
          there true).ending_pmuSteps Sequence.binding fun _ => id
      rw [onward clock]
      refine ⟨.initMemoryClock :: sent, .cons goes sends, ?_⟩
      rw [channel_withChannel, Loopback.after_after] at left
      exact left

theorem Built.ending_pmuPhase (built : Built config image support)
    (ready : support.lifecycle = .softwareReady) :
    let loopback := support.workspace.channel
    ∃ sent, loopback.Sends (config.commands Sequence.pmu) (pmuPhase.ending support).1 sent ∧
      (pmuPhase.ending support).2 = { support.withChannel (loopback.after sent) with
        modules :=
          if config.memoryClock && (loopback.rejection? (.domain .mclk)).isNone then
            support.modules.insert .mclk (.memoryClock ⟨true, 0⟩)
          else support.modules
        lifecycle := Lifecycle.pmuReady.reached (pmuPhase.ending support).1 } := by
  intro loopback
  obtain ⟨sent, sends, left⟩ := built.ending_pmu
  rw [Support.ending_pmuPhase, if_pos ready, ending_finish]
  exact ⟨sent, sends, by rw [left]⟩

/-- A group command names exactly the slots that the configuration fills. -/
theorem Built.liveSlots_of_mem (built : Built config image support) {domain : Domain}
    {mask : SlotMask} (member : .setGroup domain mask ∈ config.commands Sequence.pmu) :
    mask.WellFormed ∧ mask.bitCount = (if domain = .vfeVar ∨ domain = .vfeEqu then 255 else 32) ∧
      mask.toList = List.range
        (if domain = .clkDomain then config.clocks.length else config.objectCount domain) := by
  obtain ⟨step, present, sends⟩ := List.mem_filterMap.mp member
  obtain ⟨gated, listed, on, rfl⟩ := Sequence.mem_enabled.mp present
  cases same : gated.step with
  | bestEffort other =>
    simp only [same, Config.command?] at sends
    split at sends <;> cases sends
  | load which =>
    rw [same] at sends
    cases sends
  | domain other =>
    rw [same] at sends
    cases sends
    have binding : gated ∈ Sequence.binding := by
      rcases List.mem_cons.mp (Sequence.pmu_eq ▸ listed) with rfl | binding
      · cases same
      · exact binding
    obtain ⟨software, live | rfl⟩ := Sequence.software_of_mem_binding binding same
    · obtain ⟨_, counted, _⟩ := Domain.ne_of_isObjectModel live
      have fits := built.objects_fit domain live (Sequence.mem_enabled.mpr ⟨_, software, on, rfl⟩)
      rw [Config.liveSlots, if_neg counted, if_neg counted]
      exact ⟨SlotMask.wellFormed_lowest _ _, SlotMask.bitCount_lowest _ _,
        SlotMask.toList_lowest fits⟩
    · exact ⟨SlotMask.wellFormed_lowest _ _, SlotMask.bitCount_lowest _ _,
        SlotMask.toList_lowest built.clocks_fit⟩

/-- The second phase of a built subsystem over a loopback that was sent nothing before. -/
theorem Built.pmuPhase_outcome (built : Built config image support)
    (ready : support.lifecycle = .softwareReady) {failures : List (Target × UInt32)}
    (channel : support.workspace.channel = ⟨true, failures, []⟩)
    (clock : support.modules.get? .mclk = ModuleTable.initial? config .mclk) :
    let phase := pmuPhase.run support
    let commands := config.commands Sequence.pmu
    let sent := phase.state.workspace.channel.sent
    (match commands.findIdx? fun command =>
        command.target ≠ .domain .mclk && (failures.lookup command.target).isSome with
      | none => phase.value = .ok () ∧ sent = commands ∧ phase.state.lifecycle = .pmuReady
      | some position => ∃ command status, commands[position]? = some command ∧
          failures.lookup command.target = some status ∧
          phase.value = .error (command.refusal (.rejected (some status))) ∧
          sent = commands.take (position + 1) ∧ phase.state.lifecycle = .failed) ∧
    phase.state.modules.get? .mclk =
      if config.memoryClock then
        some (.memoryClock ⟨(failures.lookup (.domain .mclk)).isNone, 0⟩)
      else none := by
  intro phase commands sent
  obtain ⟨listed, sends, left⟩ := built.ending_pmuPhase ready
  change phase.state = _ at left
  change Loopback.Sends _ _ phase.value listed at sends
  have value : (pmuPhase.ending support).1 = phase.value := rfl
  rw [channel] at sends left
  rw [value] at left
  have remembered : sent = listed := by
    simp only [sent, left]
    rfl
  refine ⟨?_, ?_⟩
  · have same : (⟨true, failures, []⟩ : Loopback).stops = fun command =>
        command.target ≠ .domain .mclk && (failures.lookup command.target).isSome := rfl
    have reached : phase.state.lifecycle = Lifecycle.pmuReady.reached phase.value := by rw [left]
    simp only [Loopback.Sends, same] at sends
    rw [reached, remembered]
    cases found : commands.findIdx? fun command =>
        command.target ≠ .domain .mclk && (failures.lookup command.target).isSome with
    | none =>
      simp only [commands] at found
      simp only [found] at sends
      exact ⟨sends.1, sends.2, by rw [sends.1]; rfl⟩
    | some position =>
      simp only [commands] at found
      simp only [found] at sends
      obtain ⟨command, status, there, listed, ended, taken⟩ := sends
      exact ⟨command, status, there, listed, ended, taken, by rw [ended]; rfl⟩
  · have modules : phase.state.modules =
        if config.memoryClock && (failures.lookup (.domain .mclk)).isNone then
          support.modules.insert .mclk (.memoryClock ⟨true, 0⟩)
        else support.modules := by rw [left]; rfl
    rw [ModuleTable.initial?_mclk] at clock
    rw [modules]
    cases there : config.memoryClock with
    | false => simp [clock, there]
    | true =>
      cases rejected : failures.lookup (.domain .mclk) with
      | none => simp
      | some status => simp [clock, there, MemoryClock.start]

/-- The commands of the second phase behind a complete software phase, for any list of failures.
They are those of the enabled steps, in order, up to the first whose target is listed and is not
the memory clock; the failure then names its step and the status listed first. The memory clock
only decides whether it ends up programmed. -/
theorem pmuPhase_commands (config : Config) (failures : List (Target × UInt32))
    (image : Option (List UInt8))
    (succeeded : (softwarePhase.run
      (ofConfig config (⟨true, failures, []⟩ : Loopback) image)).value = .ok ()) :
    let ready := (softwarePhase.run (ofConfig config (⟨true, failures, []⟩ : Loopback) image)).state
    let phase := pmuPhase.run ready
    let commands := config.commands Sequence.pmu
    let sent := phase.state.workspace.channel.sent
    (∀ domain mask, .setGroup domain mask ∈ commands → mask.WellFormed ∧
      mask.bitCount = (if domain = .vfeVar ∨ domain = .vfeEqu then 255 else 32) ∧
      mask.toList = List.range
        (if domain = .clkDomain then config.clocks.length else config.objectCount domain)) ∧
    (match commands.findIdx? fun command =>
        command.target ≠ .domain .mclk && (failures.lookup command.target).isSome with
      | none => phase.value = .ok () ∧ sent = commands ∧ phase.state.lifecycle = .pmuReady
      | some position => ∃ command status, commands[position]? = some command ∧
          failures.lookup command.target = some status ∧
          phase.value = .error (command.refusal (.rejected (some status))) ∧
          sent = commands.take (position + 1) ∧ phase.state.lifecycle = .failed) ∧
    phase.state.modules.get? .mclk =
      if config.memoryClock then
        some (.memoryClock ⟨(failures.lookup (.domain .mclk)).isNone, 0⟩)
      else none := by
  intro ready phase commands sent
  have ended : softwarePhase.ending (ofConfig config (⟨true, failures, []⟩ : Loopback) image) =
      (.ok (), ready) := Prod.ext succeeded rfl
  obtain ⟨built, lifecycle, woken, clock⟩ := built_of_softwarePhase ended
  have channel : ready.workspace.channel = ⟨true, failures, []⟩ := Loopback.eq_of_waitReady woken
  obtain ⟨outcome, programmed⟩ := built.pmuPhase_outcome lifecycle channel clock
  exact ⟨fun domain mask => built.liveSlots_of_mem, outcome, programmed⟩

/-- A rejected memory clock is passed over; the first load that is rejected ends the phase. -/
theorem pmuPhase_commands_of_rejections :
    let config : Config := { Config.empty with memoryClock := true }
    let failures : List (Target × UInt32) :=
      [(.domain .mclk, 1), (.load .volt, 7), (.load .volt, 8)]
    let image : Option (List UInt8) := some [0x50, 10, 2, 1, 6, 0, 0, 0, 0, 0, 15, 0]
    let software := softwarePhase.run (ofConfig config (⟨true, failures, []⟩ : Loopback) image)
    let phase := pmuPhase.run software.state
    software.value = .ok () ∧
      phase.value = .error (.load .volt (.rejected (some 7))) ∧
      phase.state.workspace.channel.sent =
        .initMemoryClock :: ([.voltRail, .voltDev, .voltPolicy].map fun domain =>
          .setGroup domain (SlotMask.lowest 32 1)) ++ [.load .volt] ∧
      phase.state.lifecycle = .failed := by
  intro config failures image software phase
  have succeeded : software.value = .ok () := by decide +kernel
  have outcome := (pmuPhase_commands config failures image succeeded).2.1
  have position : ((config.commands Sequence.pmu).findIdx? fun command =>
      command.target ≠ .domain .mclk && (failures.lookup command.target).isSome) = some 4 := by
    decide +kernel
  have fifth : (config.commands Sequence.pmu)[4]? = some (.load .volt) := by decide +kernel
  have first : (config.commands Sequence.pmu).take 5 =
      .initMemoryClock :: ([.voltRail, .voltDev, .voltPolicy].map fun domain =>
        .setGroup domain (SlotMask.lowest 32 1)) ++ [.load .volt] := by decide +kernel
  rw [position] at outcome
  obtain ⟨command, status, there, listed, value, sent, lifecycle⟩ := outcome
  obtain rfl : command = .load .volt := Option.some.inj (there.symm.trans fifth)
  obtain rfl : status = 7 := Option.some.inj (listed.symm.trans rfl)
  refine ⟨succeeded, value, ?_, ?_⟩
  · rw [← first, ← sent]
  · rw [← lifecycle]

end Support

end PerfStates
