import Metronome.Act

/-!
# Effects of actions in a row

What holds of two actions holds of both in a row: that they are the same as others seen through a
function on the state (`Act.mapState_bind`), that they keep a property (`Act.bind_preserves`), and
that only a good end of the last one settles a value (`Act.bind_settles`). More than two may be
grouped in any way (`Act.bind_assoc`).
-/

namespace Metronome

/-! ## Good ends -/

/-- Whether the outcome is a good one. -/
def Outcome.isDone {ε α : Type} : Outcome ε α → Bool
  | .done _ => true
  | _ => false

namespace Outcome

variable {ε ε' α β : Type}

@[simp]
theorem isDone_map (f : α → β) (o : Outcome ε α) : (o.map f).isDone = o.isDone := by
  cases o <;> rfl

@[simp]
theorem isDone_mapError (f : ε → ε') (o : Outcome ε α) : (o.mapError f).isDone = o.isDone := by
  cases o <;> rfl

theorem eq_done_of_isDone {o : Outcome ε α} (h : o.isDone) : ∃ a, o = .done a := by
  cases o with
  | done a => exact ⟨a, rfl⟩
  | failed e => cases h
  | aborted abort => cases h

theorem isDone_iff {o : Outcome ε Unit} : o.isDone ↔ o = .done () := by
  cases o <;> simp [isDone]

theorem isDone_of_ne {o : Outcome ε Unit} (h : o ≠ .done ()) : o.isDone = false := by
  rw [← Bool.not_eq_true]
  exact mt isDone_iff.mp h

end Outcome

/-! ## Two actions in a row -/

/-- What an action leaves, seen through a function on the state. -/
def Effect.mapState {σ σ' ε α : Type} (f : σ → σ') (e : Effect σ ε α) : Effect σ' ε α :=
  ⟨e.outcome, f e.state, e.trace⟩

namespace Act

variable {σ σ' τ ε α β : Type} {t : Nat}

theorem sure_apply (x : Act σ Empty α) (s : σ) :
    (x.sure : Act σ ε α) t s = ⟨(x t s).outcome.mapError nofun, (x t s).state, (x t s).trace⟩ := by
  simp only [sure, Act.orElse]
  cases (x t s).outcome with
  | done a => rfl
  | failed e => exact e.elim
  | aborted abort => rfl

/-- What holds of two actions, seen through a function on the state, holds of both in a row. -/
theorem mapState_bind {f : σ' → σ} {x' : Act σ' ε α} {x : Act σ ε α} {k' : α → Act σ' ε β}
    {k : α → Act σ ε β} (hx : ∀ s, (x' t s).mapState f = x t (f s))
    (hk : ∀ a s, (k' a t s).mapState f = k a t (f s)) (s : σ') :
    ((x' >>= k') t s).mapState f = (x >>= k) t (f s) := by
  rw [bind_apply, bind_apply, ← hx s, Effect.mapState]
  simp only [Effect.mapState]
  cases (x' t s).outcome with
  | done a =>
    simp only [← hk a (x' t s).state, Effect.mapState]
  | failed e => rfl
  | aborted abort => rfl

/-- It does not matter which of three actions in a row are taken together. -/
theorem bind_assoc {γ : Type} (x : Act σ ε α) (f : α → Act σ ε β) (g : β → Act σ ε γ) :
    (x >>= f) >>= g = x >>= fun a => f a >>= g := by
  funext t s
  rw [bind_apply, bind_apply, bind_apply]
  cases (x t s).outcome with
  | done a =>
    simp only [bind_apply]
    cases (f a t (x t s).state).outcome with
    | done b => simp only [List.append_assoc]
    | failed e => rfl
    | aborted abort => rfl
  | failed e => rfl
  | aborted abort => rfl

theorem mapError_bind {ε' : Type} (h : ε → ε') (x : Act σ ε α) (f : α → Act σ ε β) :
    (x >>= f).mapError h = x.mapError h >>= fun a => (f a).mapError h := by
  funext t s
  rw [mapError_apply, bind_apply, bind_apply, mapError_apply]
  cases (x t s).outcome with
  | done a => simp only [Outcome.mapError, mapError_apply]
  | failed e => rfl
  | aborted abort => rfl

variable {x : Act σ ε α} {f : α → Act σ ε β}

/-- What two actions preserve is preserved by one after the other. -/
theorem bind_preserves {P : σ → Prop} (hx : ∀ s, P s → P (x t s).state)
    (hf : ∀ a s, P s → P (f a t s).state) (s : σ) (h : P s) : P ((x >>= f) t s).state := by
  rw [bind_apply]
  cases (x t s).outcome with
  | done a => exact hf a _ (hx s h)
  | failed e => exact hx s h
  | aborted abort => exact hx s h

/-- Where the first action keeps a view, and the second either ends well and settles the view at a
value or keeps it, the same is true of both in a row. -/
theorem bind_settles {view : σ → τ} {v : τ} (hx : ∀ s, view (x t s).state = view s)
    (hf : ∀ a s, view (f a t s).state = if (f a t s).outcome.isDone then v else view s) (s : σ) :
    view ((x >>= f) t s).state = if ((x >>= f) t s).outcome.isDone then v else view s := by
  rw [bind_apply]
  cases (x t s).outcome with
  | done a =>
    rw [← hx s]
    exact hf a (x t s).state
  | failed e => exact hx s
  | aborted abort => exact hx s

end Act

end Metronome
