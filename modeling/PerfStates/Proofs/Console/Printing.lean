import PerfStates.Console
import PerfStates.Proofs.Ending

namespace PerfStates.Console

variable {ω σ ε ε' α β : Type}

/-- The lines that an attempt prints. -/
def shown (attempt : Attempt Entry σ ε α) (state : σ) : List String :=
  (attempt.run state).journal.filterMap Entry.line?

/-- An attempt that prints nothing. -/
def Silent (attempt : Attempt Entry σ ε α) : Prop := ∀ state, shown attempt state = []

/-- An attempt that cannot fail. -/
def Succeeds (attempt : Attempt Entry σ ε α) : Prop :=
  ∀ state, ∃ value, (attempt.ending state).1 = .ok value

theorem Succeeds.bind {attempt : Attempt Entry σ ε α} {next : α → Attempt Entry σ ε β}
    (first : Succeeds attempt) (later : ∀ value, Succeeds (next value)) :
    Succeeds (attempt >>= next) := by
  intro state
  obtain ⟨value, ended⟩ := first state
  obtain ⟨last, done⟩ := later value (attempt.ending state).2
  have whole : attempt.ending state = (.ok value, (attempt.ending state).2) := Prod.ext ended rfl
  rw [Attempt.ending_bind, whole]
  exact ⟨last, done⟩

end PerfStates.Console
