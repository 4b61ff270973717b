import Metronome.Driver
import Metronome.Proofs.Effects

/-!
# Actions that cannot fail

An action is safe on states with some property when it ends well on each of them and leaves the
property as it was. What is made of safe actions is safe, so the safety of a driver
(`Driver.Safe`) is read off its code line by line.
-/

namespace Metronome

namespace Act

variable {σ π ε ε' α β : Type}

/-- At any instant, on any state with `P`: the action ends well and leaves a state with `P`. -/
def Safe (P : σ → Prop) (x : Act σ ε α) : Prop :=
  ∀ now s, P s → (x now s).outcome.isDone ∧ P (x now s).state

variable {P : σ → Prop} {x : Act σ ε α}

theorem Safe.pure (a : α) : Safe P (pure a : Act σ ε α) := fun _ _ h => ⟨rfl, h⟩

theorem Safe.emit (event : Event) : Safe P (emit event : Act σ ε Unit) := fun _ _ h => ⟨rfl, h⟩

theorem Safe.modify {f : σ → σ} (hf : ∀ s, P s → P (f s)) : Safe P (modify f : Act σ ε Unit) :=
  fun _ s h => ⟨rfl, hf s h⟩

theorem Safe.bind {f : α → Act σ ε β} (hx : Safe P x) (hf : ∀ a, Safe P (f a)) :
    Safe P (x >>= f) := by
  intro now s h
  obtain ⟨hdone, hstate⟩ := hx now s h
  obtain ⟨a, ha⟩ := Outcome.eq_done_of_isDone hdone
  rw [bind_apply, ha]
  exact hf a now _ hstate

/-- What follows on a look at the state may rely on its property. -/
theorem Safe.get_bind {f : σ → Act σ ε β} (hf : ∀ s, P s → ((f s) : Act σ ε β).Safe P) :
    Safe P (get >>= f) := fun now s h => hf s h now s h

/-- A safe action has no use for a handler. -/
theorem Safe.orElse (hx : Safe P x) (handler : ε → Act σ ε' α) : Safe P (x.orElse handler) := by
  intro now s h
  obtain ⟨hdone, hstate⟩ := hx now s h
  obtain ⟨a, ha⟩ := Outcome.eq_done_of_isDone hdone
  rw [Act.orElse, ha]
  exact ⟨rfl, hstate⟩

theorem Safe.sure {x : Act σ Empty α} (hx : Safe P x) : Safe P (x.sure : Act σ ε α) :=
  hx.orElse _

/-- An action on a part of the state is safe there. -/
theorem Safe.on {Q : π → Prop} {x : Act π ε α} {part : σ → π} {put : π → σ → σ} (hx : Safe Q x)
    (hpart : ∀ s, P s → Q (part s)) (hput : ∀ p s, Q p → P s → P (put p s)) :
    Safe P (x.on part put) := by
  intro now s h
  obtain ⟨hdone, hstate⟩ := hx now (part s) (hpart s h)
  exact ⟨hdone, hput _ s hstate h⟩

end Act

/-- A driver that is safe: its setup and its steps are. -/
structure Driver.Safe {δ : Type} [Driver δ] (P : δ → Prop) : Prop where
  setUp : (Driver.setUp : Act δ DriverError Unit).Safe P
  step : (Driver.step : Act δ DriverError Step).Safe P

end Metronome
