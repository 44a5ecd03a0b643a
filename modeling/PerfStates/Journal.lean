/-! Actions that keep a journal. An action turns a state into a value, a new state
and the entries it wrote; an attempt is an action that may end in an error, and
keeps its state and journal when it does. -/

namespace PerfStates

/-- How much a message matters, most severe first. -/
inductive Level
  | error
  | warn
  | info
  | debug
  | trace
deriving DecidableEq, Repr

namespace Level

/-- The severity: the lower, the graver. -/
def rank : Level → Nat
  | error => 1
  | warn => 2
  | info => 3
  | debug => 4
  | trace => 5

def name : Level → String
  | error => "ERROR"
  | warn => "WARN"
  | info => "INFO"
  | debug => "DEBUG"
  | trace => "TRACE"

end Level

structure Message where
  level : Level
  text : String
deriving DecidableEq, Repr

/-- What an action leaves behind; the journal lists its oldest entry first. -/
structure Outcome (ω σ α : Type) where
  value : α
  state : σ
  journal : List ω

/-- A computation on a state `σ` that writes entries `ω`. -/
def Action (ω σ α : Type) : Type := σ → Outcome ω σ α

/-- An action that may end in an error `ε`. -/
abbrev Attempt (ω σ ε α : Type) : Type := ExceptT ε (Action ω σ) α

namespace Action

variable {ω ω' σ τ α β : Type}

instance : Monad (Action ω σ) where
  pure value := fun state => ⟨value, state, []⟩
  bind action next := fun state =>
    let first := action state
    let second := next first.value first.state
    ⟨second.value, second.state, first.journal ++ second.journal⟩

def get : Action ω σ σ := fun state => ⟨state, state, []⟩

def modify (change : σ → σ) : Action ω σ Unit := fun state => ⟨(), change state, []⟩

def record (entry : ω) : Action ω σ Unit := fun state => ⟨(), state, [entry]⟩

def log (level : Level) (text : String) : Action Message σ Unit := record ⟨level, text⟩

/-- Run an action on one part of a larger state. -/
def onPart (part : σ → τ) (put : τ → σ → σ) (action : Action ω τ α) : Action ω σ α :=
  fun state =>
    let inner := action (part state)
    ⟨inner.value, put inner.state state, inner.journal⟩

/-- Run an action on a state of its own, and hand that state back with the value. -/
def onOwn (start : τ) (action : Action ω τ α) : Action ω σ (α × τ) := fun state =>
  let inner := action start
  ⟨(inner.value, inner.state), state, inner.journal⟩

/-- Run an action and restate the entries it writes. -/
def relay (restate : ω → ω') (action : Action ω σ α) : Action ω' σ α := fun state =>
  let inner := action state
  ⟨inner.value, inner.state, inner.journal.map restate⟩

end Action

namespace Attempt

variable {ω ω' σ τ ε ε' α : Type}

/-- Run an attempt and tell how it ended, without ending in an error. -/
def outcome (attempt : Attempt ω σ ε α) : Action ω σ (Except ε α) := attempt.run

/-- An attempt whose ending is already known. -/
def ofExcept (ending : Except ε α) : Attempt ω σ ε α := ExceptT.mk (pure ending)

def ofAction (action : Action ω σ α) : Attempt ω σ ε α := ExceptT.lift action

/-- Restate the error of an attempt. -/
def mapError (restate : ε → ε') (attempt : Attempt ω σ ε α) : Attempt ω σ ε' α :=
  ExceptT.mk (Except.mapError restate <$> attempt.run)

/-- Run an attempt on one part of a larger state. -/
def onPart (part : σ → τ) (put : τ → σ → σ) (attempt : Attempt ω τ ε α) : Attempt ω σ ε α :=
  ExceptT.mk (Action.onPart part put attempt.run)

/-- Run an attempt and restate the entries it writes. -/
def relay (restate : ω → ω') (attempt : Attempt ω σ ε α) : Attempt ω' σ ε α :=
  ExceptT.mk (Action.relay restate attempt.run)

def get : Attempt ω σ ε σ := ofAction Action.get

def modify (change : σ → σ) : Attempt ω σ ε Unit := ofAction (Action.modify change)

def record (entry : ω) : Attempt ω σ ε Unit := ofAction (Action.record entry)

def log (level : Level) (text : String) : Attempt Message σ ε Unit :=
  ofAction (Action.log level text)

end Attempt

end PerfStates
