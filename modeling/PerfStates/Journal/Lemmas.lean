import PerfStates.Journal

namespace PerfStates

namespace Action

variable {ω ω' σ τ α β : Type}

@[simp] theorem pure_apply (value : α) (state : σ) :
    (pure value : Action ω σ α) state = ⟨value, state, []⟩ := rfl

@[simp] theorem bind_apply (action : Action ω σ α) (next : α → Action ω σ β) (state : σ) :
    (action >>= next) state =
      ⟨(next (action state).value (action state).state).value,
        (next (action state).value (action state).state).state,
        (action state).journal ++ (next (action state).value (action state).state).journal⟩ :=
  rfl

instance : LawfulMonad (Action ω σ) := LawfulMonad.mk' (Action ω σ)
  (fun action => by
    funext state
    change (⟨_, _, (action state).journal ++ []⟩ : Outcome ω σ _) = action state
    rw [List.append_nil]
    rfl)
  (fun value next => by funext state; simp)
  (fun action next last => by funext state; simp [List.append_assoc])

@[simp] theorem get_apply (state : σ) :
    (get : Action ω σ σ) state = ⟨state, state, []⟩ := rfl

@[simp] theorem modify_apply (change : σ → σ) (state : σ) :
    (modify change : Action ω σ Unit) state = ⟨(), change state, []⟩ := rfl

@[simp] theorem record_apply (entry : ω) (state : σ) :
    record entry state = ⟨(), state, [entry]⟩ := rfl

@[simp] theorem log_apply (level : Level) (text : String) (state : σ) :
    log level text state = ⟨(), state, [⟨level, text⟩]⟩ := rfl

@[simp] theorem onPart_apply (part : σ → τ) (put : τ → σ → σ) (action : Action ω τ α)
    (state : σ) :
    onPart part put action state =
      ⟨(action (part state)).value, put (action (part state)).state state,
        (action (part state)).journal⟩ := rfl

@[simp] theorem onOwn_apply (start : τ) (action : Action ω τ α) (state : σ) :
    onOwn start action state =
      ⟨((action start).value, (action start).state), state, (action start).journal⟩ := rfl

@[simp] theorem relay_apply (restate : ω → ω') (action : Action ω σ α) (state : σ) :
    relay restate action state =
      ⟨(action state).value, (action state).state, (action state).journal.map restate⟩ := rfl

end Action

namespace Attempt

variable {ω ω' σ τ ε ε' α β : Type}

@[simp] theorem pure_run (value : α) (state : σ) :
    (pure value : Attempt ω σ ε α).run state = ⟨.ok value, state, []⟩ := rfl

@[simp] theorem throw_run (failure : ε) (state : σ) :
    (throw failure : Attempt ω σ ε α).run state = ⟨.error failure, state, []⟩ := rfl

theorem bind_run_ok {attempt : Attempt ω σ ε α} {next : α → Attempt ω σ ε β} {state : σ}
    {value : α} (ended : (attempt.run state).value = .ok value) :
    (attempt >>= next).run state =
      ⟨((next value).run (attempt.run state).state).value,
        ((next value).run (attempt.run state).state).state,
        (attempt.run state).journal ++
          ((next value).run (attempt.run state).state).journal⟩ := by
  rw [ExceptT.run_bind, Action.bind_apply, ended]

theorem bind_run_error {attempt : Attempt ω σ ε α} {next : α → Attempt ω σ ε β} {state : σ}
    {failure : ε} (ended : (attempt.run state).value = .error failure) :
    (attempt >>= next).run state =
      ⟨.error failure, (attempt.run state).state, (attempt.run state).journal⟩ := by
  rw [ExceptT.run_bind, Action.bind_apply, ended]
  simp

@[simp] theorem outcome_apply (attempt : Attempt ω σ ε α) (state : σ) :
    outcome attempt state = attempt.run state := rfl

@[simp] theorem ofExcept_run (ending : Except ε α) (state : σ) :
    (ofExcept ending : Attempt ω σ ε α).run state = ⟨ending, state, []⟩ := rfl

@[simp] theorem ofAction_run (action : Action ω σ α) (state : σ) :
    (ofAction action : Attempt ω σ ε α).run state =
      ⟨.ok (action state).value, (action state).state, (action state).journal⟩ := by
  change (⟨_, _, (action state).journal ++ []⟩ : Outcome ω σ _) = _
  rw [List.append_nil]
  rfl

@[simp] theorem mapError_run (restate : ε → ε') (attempt : Attempt ω σ ε α) (state : σ) :
    (mapError restate attempt).run state =
      ⟨(attempt.run state).value.mapError restate, (attempt.run state).state,
        (attempt.run state).journal⟩ := by
  change (⟨_, _, (attempt.run state).journal ++ []⟩ : Outcome ω σ _) = _
  rw [List.append_nil]
  rfl

@[simp] theorem onPart_run (part : σ → τ) (put : τ → σ → σ) (attempt : Attempt ω τ ε α)
    (state : σ) :
    (onPart part put attempt).run state =
      ⟨(attempt.run (part state)).value, put (attempt.run (part state)).state state,
        (attempt.run (part state)).journal⟩ := rfl

@[simp] theorem relay_run (restate : ω → ω') (attempt : Attempt ω σ ε α) (state : σ) :
    (relay restate attempt).run state =
      ⟨(attempt.run state).value, (attempt.run state).state,
        (attempt.run state).journal.map restate⟩ := rfl

@[simp] theorem get_run (state : σ) :
    (get : Attempt ω σ ε σ).run state = ⟨.ok state, state, []⟩ := rfl

@[simp] theorem modify_run (change : σ → σ) (state : σ) :
    (modify change : Attempt ω σ ε Unit).run state = ⟨.ok (), change state, []⟩ := rfl

@[simp] theorem record_run (entry : ω) (state : σ) :
    (record entry : Attempt ω σ ε Unit).run state = ⟨.ok (), state, [entry]⟩ := rfl

@[simp] theorem log_run (level : Level) (text : String) (state : σ) :
    (log level text : Attempt Message σ ε Unit).run state =
      ⟨.ok (), state, [⟨level, text⟩]⟩ := rfl

end Attempt

end PerfStates
