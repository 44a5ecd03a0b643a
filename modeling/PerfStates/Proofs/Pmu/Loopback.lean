import PerfStates.Pmu.Channel
import PerfStates.Proofs.Ending

namespace PerfStates.Loopback

/-- The loopback once it has been sent more commands. -/
def after (loopback : Loopback) (commands : List Command) : Loopback :=
  { loopback with sent := loopback.sent ++ commands }

@[simp] theorem after_nil (loopback : Loopback) : loopback.after [] = loopback := by
  simp [after]

@[simp] theorem after_after (loopback : Loopback) (first second : List Command) :
    (loopback.after first).after second = loopback.after (first ++ second) := by
  simp [after]

/-- Every command is remembered, and answered by the first failure listed for its target. -/
theorem ending_exchange (loopback : Loopback) (command : Command) :
    (Channel.exchange command).ending loopback =
      (match loopback.rejection? command.target with
        | some status => .error (.rejected (some status))
        | none => .ok ⟨0⟩, loopback.after [command]) := by
  simp only [Channel.exchange, Attempt.ending_bind, Attempt.ending_log, Attempt.ending_modify,
    Attempt.ending_get, rejection?, after]
  cases loopback.failures.lookup command.target <;> rfl

theorem ending_waitReady (loopback : Loopback) :
    (Channel.waitReady : Attempt Message Loopback ChannelError Unit).ending loopback =
      (if loopback.ready then .ok () else .error .notReady, loopback) := by
  simp only [Channel.waitReady, Attempt.ending_bind, Attempt.ending_get]
  cases loopback.ready <;> rfl

theorem eq_of_waitReady {loopback woken : Loopback} {ended : Except ChannelError Unit}
    (waited : Channel.waitReady.ending loopback = (ended, woken)) : woken = loopback := by
  rw [ending_waitReady] at waited
  exact (Prod.mk.inj waited).2.symm

end PerfStates.Loopback
