import PerfStates.Proofs.Bringup.Commands
import PerfStates.Proofs.Bringup.Verdict

namespace PerfStates.Support

variable {config : Config} {image : Option (List UInt8)} {loopback : Loopback}

/-- If every enabled step can be taken and no command is in the way, both phases end well, and
the unit has got all commands. -/
theorem phases_of_free (awake : loopback.ready = true)
    (steps : ∀ step ∈ Sequence.enabled config.capabilities Sequence.software,
      config.failure? image step = none)
    (commands : ∀ command ∈ config.commands Sequence.pmu, loopback.stops command = false) :
    let software := softwarePhase.run (ofConfig config loopback image)
    let pmu := pmuPhase.run software.state
    software.value = .ok () ∧ pmu.value = .ok () ∧ Built config image pmu.state ∧
      pmu.state.workspace.channel = loopback.after (config.commands Sequence.pmu) := by
  intro software pmu
  have waited : Channel.waitReady.ending loopback = (.ok (), loopback) := by
    rw [Loopback.ending_waitReady, if_pos awake]
  have first : software.value = .ok () := by
    rw [value_softwarePhase waited, List.findSome?_eq_none_iff.mpr steps]
  obtain ⟨built, lifecycle, woken, _⟩ :=
    built_of_softwarePhase (Attempt.ending_of_value first)
  obtain ⟨sent, sends, left⟩ := built.ending_pmuPhase lifecycle
  rw [Loopback.eq_of_waitReady woken] at sends left
  obtain ⟨value, rfl⟩ := sends.of_free commands
  exact ⟨first, value, built.after_pmuPhase, congrArg (·.workspace.channel) left⟩

theorem free_of_phases (awake : loopback.ready = true)
    (first : (softwarePhase.run (ofConfig config loopback image)).value = .ok ())
    (second : (pmuPhase.run
      (softwarePhase.run (ofConfig config loopback image)).state).value = .ok ()) :
    (∀ step ∈ Sequence.enabled config.capabilities Sequence.software,
      config.failure? image step = none) ∧
    ∀ command ∈ config.commands Sequence.pmu, loopback.stops command = false := by
  constructor
  · have waited : Channel.waitReady.ending loopback = (.ok (), loopback) := by
      rw [Loopback.ending_waitReady, if_pos awake]
    rw [value_softwarePhase waited] at first
    rw [← List.findSome?_eq_none_iff]
    split at first
    · assumption
    · cases first
  · obtain ⟨built, lifecycle, woken, _⟩ :=
      built_of_softwarePhase (Attempt.ending_of_value first)
    obtain ⟨sent, sends, -⟩ := built.ending_pmuPhase lifecycle
    rw [Loopback.eq_of_waitReady woken, Attempt.ending_of_value second] at sends
    exact sends.free_of_ok

end PerfStates.Support
