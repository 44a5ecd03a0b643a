import PerfStates.Journal.Lemmas

/-! Attempts without their journals: how an attempt ends and the state it leaves. What
a log says never decides either, so statements about endings compose by themselves. -/

namespace PerfStates

@[simp] theorem mapError_ok {ε ε' α : Type} (restate : ε → ε') (value : α) :
    (Except.ok value : Except ε α).mapError restate = .ok value := rfl

@[simp] theorem mapError_error {ε ε' α : Type} (restate : ε → ε') (failure : ε) :
    (Except.error failure : Except ε α).mapError restate = .error (restate failure) := rfl

theorem eq_ok_of_toOption {ε α : Type} {ended : Except ε α} {value : α}
    (given : ended.toOption = some value) : ended = .ok value := by
  cases ended with
  | error failure => cases given
  | ok other =>
    cases given
    rfl

namespace Attempt

variable {ω ω' σ τ ε ε' α β : Type}

/-- How an attempt ends and the state it leaves. -/
def ending (attempt : Attempt ω σ ε α) (state : σ) : Except ε α × σ :=
  ((attempt.run state).value, (attempt.run state).state)

theorem ending_of_value {attempt : Attempt ω σ ε α} {state : σ} {value : Except ε α}
    (ended : (attempt.run state).value = value) :
    attempt.ending state = (value, (attempt.run state).state) := by
  rw [ending, ended]

theorem run_of_ending {attempt : Attempt ω σ ε α} {state after : σ} {value : Except ε α}
    (ended : attempt.ending state = (value, after)) :
    (attempt.run state).value = value ∧ (attempt.run state).state = after :=
  Prod.mk.inj ended

/-- An attempt goes on from the state its first part leaves, unless that part fails. -/
theorem bind_run (attempt : Attempt ω σ ε α) (next : α → Attempt ω σ ε β) (state : σ) :
    (attempt >>= next).run state =
      match (attempt.run state).value with
      | .ok value =>
        ⟨((next value).run (attempt.run state).state).value,
          ((next value).run (attempt.run state).state).state,
          (attempt.run state).journal ++ ((next value).run (attempt.run state).state).journal⟩
      | .error failure =>
        ⟨.error failure, (attempt.run state).state, (attempt.run state).journal⟩ := by
  cases ended : (attempt.run state).value with
  | ok value => exact bind_run_ok ended
  | error failure => exact bind_run_error ended

@[simp] theorem ending_bind (attempt : Attempt ω σ ε α) (next : α → Attempt ω σ ε β) (state : σ) :
    (attempt >>= next).ending state =
      match attempt.ending state with
      | (.ok value, after) => (next value).ending after
      | (.error failure, after) => (.error failure, after) := by
  simp only [ending, bind_run]
  cases (attempt.run state).value <;> rfl

@[simp] theorem ending_pure (value : α) (state : σ) :
    (pure value : Attempt ω σ ε α).ending state = (.ok value, state) := rfl

@[simp] theorem ending_map (change : α → β) (attempt : Attempt ω σ ε α) (state : σ) :
    (change <$> attempt).ending state =
      ((attempt.ending state).1.map change, (attempt.ending state).2) := by
  rw [map_eq_pure_bind, ending_bind]
  split <;> rename_i ended <;> rw [ended] <;> rfl

@[simp] theorem ending_throw (failure : ε) (state : σ) :
    (throw failure : Attempt ω σ ε α).ending state = (.error failure, state) := rfl

@[simp] theorem ending_ofExcept (known : Except ε α) (state : σ) :
    (ofExcept known : Attempt ω σ ε α).ending state = (known, state) := rfl

@[simp] theorem ending_ofAction (action : Action ω σ α) (state : σ) :
    (ofAction action : Attempt ω σ ε α).ending state =
      (.ok (action state).value, (action state).state) := by
  simp [ending]

theorem ending_outcome (attempt : Attempt ω σ ε α) (state : σ) :
    (ofAction attempt.outcome : Attempt ω σ ε' (Except ε α)).ending state =
      (.ok (attempt.ending state).1, (attempt.ending state).2) := by
  rw [ending_ofAction, outcome_apply]
  rfl

@[simp] theorem ending_mapError (restate : ε → ε') (attempt : Attempt ω σ ε α) (state : σ) :
    (mapError restate attempt).ending state =
      ((attempt.ending state).1.mapError restate, (attempt.ending state).2) := by
  simp [ending]

@[simp] theorem ending_onPart (part : σ → τ) (put : τ → σ → σ) (attempt : Attempt ω τ ε α)
    (state : σ) :
    (onPart part put attempt).ending state =
      ((attempt.ending (part state)).1, put (attempt.ending (part state)).2 state) := rfl

@[simp] theorem ending_relay (restate : ω → ω') (attempt : Attempt ω σ ε α) (state : σ) :
    (relay restate attempt).ending state = attempt.ending state := rfl

@[simp] theorem ending_get (state : σ) :
    (get : Attempt ω σ ε σ).ending state = (.ok state, state) := rfl

@[simp] theorem ending_modify (change : σ → σ) (state : σ) :
    (modify change : Attempt ω σ ε Unit).ending state = (.ok (), change state) := rfl

@[simp] theorem ending_record (entry : ω) (state : σ) :
    (record entry : Attempt ω σ ε Unit).ending state = (.ok (), state) := rfl

@[simp] theorem ending_log (level : Level) (text : String) (state : σ) :
    (log level text : Attempt Message σ ε Unit).ending state = (.ok (), state) := rfl

end Attempt

end PerfStates
