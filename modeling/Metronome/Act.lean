import Metronome.Trace
import Metronome.Failure

/-!
# Actions

An action runs at an instant on the state of some device. It leaves an outcome, the next state and
a trace of what it did. State and trace are kept also when the action fails, so that what a device
did before a failure is never lost.
-/

namespace Metronome

/-- How an action ends. -/
inductive Outcome (ε α : Type) where
  /-- It ends well with a value. -/
  | done (value : α)
  /-- It fails with an error that its caller can see. -/
  | failed (error : ε)
  /-- It ends the whole program. -/
  | aborted (abort : Abort)
deriving DecidableEq

/-- The outcome with its value changed. -/
def Outcome.map {ε α β : Type} (f : α → β) : Outcome ε α → Outcome ε β
  | .done a => .done (f a)
  | .failed e => .failed e
  | .aborted abort => .aborted abort

/-- The outcome with its error changed. -/
def Outcome.mapError {ε ε' α : Type} (f : ε → ε') : Outcome ε α → Outcome ε' α
  | .done a => .done a
  | .failed e => .failed (f e)
  | .aborted abort => .aborted abort

namespace Outcome

variable {ε ε' α β : Type}

theorem map_eq_done {f : α → β} {o : Outcome ε α} {b : β} :
    o.map f = .done b ↔ ∃ a, o = .done a ∧ f a = b := by
  cases o <;> simp [Outcome.map]

theorem map_eq_failed {f : α → β} {o : Outcome ε α} {e : ε} :
    o.map f = .failed e ↔ o = .failed e := by
  cases o <;> simp [Outcome.map]

theorem mapError_map (f : α → β) (g : ε → ε') (o : Outcome ε α) :
    (o.map f).mapError g = (o.mapError g).map f := by
  cases o <;> rfl

end Outcome

/-- What running an action leaves behind. -/
structure Effect (σ ε α : Type) where
  /-- How it ended. -/
  outcome : Outcome ε α
  /-- The state after it. -/
  state : σ
  /-- What it did. -/
  trace : Trace
deriving DecidableEq

/-- An action on a state `σ`, given the microseconds since the start. -/
def Act (σ ε α : Type) := Nat → σ → Effect σ ε α

namespace Act

variable {σ π ε ε' α β : Type}

/-- Ends at once with a value. -/
protected def pure (a : α) : Act σ ε α := fun _ s => ⟨.done a, s, []⟩

/-- Runs one action after the other; the second sees what the first left. -/
protected def bind (x : Act σ ε α) (f : α → Act σ ε β) : Act σ ε β := fun now s =>
  let first := x now s
  match first.outcome with
  | .done a =>
    let second := f a now first.state
    ⟨second.outcome, second.state, first.trace ++ second.trace⟩
  | .failed e => ⟨.failed e, first.state, first.trace⟩
  | .aborted m => ⟨.aborted m, first.state, first.trace⟩

instance : Monad (Act σ ε) where
  pure := Act.pure
  bind := Act.bind

/-- Fails. -/
def fail (e : ε) : Act σ ε α := fun _ s => ⟨.failed e, s, []⟩

/-- Ends the whole program. -/
def abort (message : String) : Act σ ε α := fun _ s => ⟨.aborted ⟨message⟩, s, []⟩

/-- The microseconds since the start. -/
def now : Act σ ε Nat := fun t s => ⟨.done t, s, []⟩

/-- The state. -/
def get : Act σ ε σ := fun _ s => ⟨.done s, s, []⟩

/-- Replaces the state. -/
def set (s : σ) : Act σ ε Unit := fun _ _ => ⟨.done (), s, []⟩

/-- Changes the state. -/
def modify (f : σ → σ) : Act σ ε Unit := fun _ s => ⟨.done (), f s, []⟩

/-- Records an event. -/
def emit (event : Event) : Act σ ε Unit := fun _ s => ⟨.done (), s, [event]⟩

/-- Writes a log record. -/
def log (severity : Severity) (source : Component) (text : String) : Act σ ε Unit :=
  emit (.log { severity, source, text })

/-- Runs an action and, when it fails, goes on with what `h` makes of the error. -/
def orElse (x : Act σ ε α) (h : ε → Act σ ε' α) : Act σ ε' α := fun now s =>
  let first := x now s
  match first.outcome with
  | .done a => ⟨.done a, first.state, first.trace⟩
  | .failed e =>
    let second := h e now first.state
    ⟨second.outcome, second.state, first.trace ++ second.trace⟩
  | .aborted m => ⟨.aborted m, first.state, first.trace⟩

/-- Runs an action under another error type. -/
def mapError (f : ε → ε') (x : Act σ ε α) : Act σ ε' α := x.orElse fun e => fail (f e)

/-- An action that cannot fail, where failures are possible. -/
def sure (x : Act σ Empty α) : Act σ ε α := x.orElse nofun

/-- Ends with what a computation without state gives. -/
def ofExcept : Except ε α → Act σ ε α
  | .ok a => pure a
  | .error e => fail e

/-- Runs an action on a part of the state. -/
def on (part : σ → π) (put : π → σ → σ) (x : Act π ε α) : Act σ ε α := fun now s =>
  let inner := x now (part s)
  ⟨inner.outcome, put inner.state s, inner.trace⟩

/-! ## What each action leaves behind -/

@[simp]
theorem pure_apply (a : α) (t : Nat) (s : σ) : (pure a : Act σ ε α) t s = ⟨.done a, s, []⟩ := rfl

theorem bind_apply (x : Act σ ε α) (f : α → Act σ ε β) (t : Nat) (s : σ) :
    (x >>= f) t s = match (x t s).outcome with
      | .done a => ⟨(f a t (x t s).state).outcome, (f a t (x t s).state).state,
          (x t s).trace ++ (f a t (x t s).state).trace⟩
      | .failed e => ⟨.failed e, (x t s).state, (x t s).trace⟩
      | .aborted m => ⟨.aborted m, (x t s).state, (x t s).trace⟩ := rfl

/-- After an action that ends well, the next one runs on what it left. -/
theorem bind_of_done {x : Act σ ε α} {f : α → Act σ ε β} {t : Nat} {s s' : σ} {a : α} {l : Trace}
    (h : x t s = ⟨.done a, s', l⟩) :
    (x >>= f) t s = ⟨(f a t s').outcome, (f a t s').state, l ++ (f a t s').trace⟩ := by
  rw [bind_apply, h]

/-- After a failure nothing more runs. -/
theorem bind_of_failed {x : Act σ ε α} {f : α → Act σ ε β} {t : Nat} {s s' : σ} {e : ε} {l : Trace}
    (h : x t s = ⟨.failed e, s', l⟩) : (x >>= f) t s = ⟨.failed e, s', l⟩ := by
  rw [bind_apply, h]

/-- When an action does not end well, nothing runs after it and its ending is that of the whole. -/
theorem bind_of_not_done {x : Act σ ε α} {f : α → Act σ ε β} {t : Nat} {s : σ}
    (h : ∀ a, (x t s).outcome ≠ .done a) (g : α → β) :
    (x >>= f) t s = ⟨(x t s).outcome.map g, (x t s).state, (x t s).trace⟩ := by
  rw [bind_apply]
  cases ho : (x t s).outcome with
  | done a => exact absurd ho (h a)
  | failed e => rfl
  | aborted abort => rfl

/-- What two actions leave as it is stays so when one runs after the other. -/
theorem bind_keeps {τ : Type} {view : σ → τ} {x : Act σ ε α} {f : α → Act σ ε β} {t : Nat}
    (hx : ∀ s, view (x t s).state = view s) (hf : ∀ a s, view (f a t s).state = view s) (s : σ) :
    view ((x >>= f) t s).state = view s := by
  rw [bind_apply]
  cases (x t s).outcome with
  | done a => exact (hf a (x t s).state).trans (hx s)
  | failed e => exact hx s
  | aborted abort => exact hx s

theorem mapError_apply (f : ε → ε') (x : Act σ ε α) (t : Nat) (s : σ) :
    x.mapError f t s = ⟨(x t s).outcome.mapError f, (x t s).state, (x t s).trace⟩ := by
  rw [mapError, orElse]
  cases (x t s).outcome with
  | done a => rfl
  | failed e => simp only [fail, List.append_nil, Outcome.mapError]
  | aborted abort => rfl

end Act

end Metronome
