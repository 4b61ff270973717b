import Mathlib.Data.List.DropRight
import Metronome.Proofs.Effects
import Metronome.Proofs.Uses

/-!
# What the uses of a driver come to

An occasion is a call of a driver with the driver that it is made on, so all that the call does can
be read off it. The occasions since the last setup that ended well are what a driver has been
through, and the steps among them that ended well are its progress.

* `holds_at_progress`: what is kept by calls that fail, and moves on with a step that ends well, is
  known from the progress alone.
* `map_stepsSinceSetUp`: so is what such steps show, one after the other.
* `map_occasions`: two drivers between which a relation is kept show the same in all calls.
-/

namespace Metronome

/-- A driver and the call that is made on it. -/
structure Occasion (δ : Type) where
  driver : δ
  use : DriverUse

section Occasion

variable {δ : Type} [Driver δ]

namespace Occasion

/-- What the call leaves. A setup that ends well answers no step. -/
def effect (o : Occasion δ) : Effect δ DriverError (Option Step) :=
  match o.use with
  | .setUp now =>
    let e := Driver.setUp now o.driver
    ⟨e.outcome.map fun () => none, e.state, e.trace⟩
  | .step now =>
    let e := Driver.step now o.driver
    ⟨e.outcome.map some, e.state, e.trace⟩

/-- Whether the call is a setup that ends well. -/
def setsUp (o : Occasion δ) : Bool := o.effect.outcome = .done none

/-- Whether the call is a step that ends well. -/
def steps (o : Occasion δ) : Bool :=
  match o.effect.outcome with
  | .done (some _) => true
  | _ => false

theorem state_effect (o : Occasion δ) : o.effect.state = DriverUse.run o.driver o.use := by
  obtain ⟨d, use⟩ := o
  cases use <;> rfl

@[simp]
theorem setsUp_setUp (d : δ) (now : Nat) :
    (⟨d, .setUp now⟩ : Occasion δ).setsUp = (Driver.setUp now d).outcome.isDone := by
  cases h : (Driver.setUp now d).outcome <;> simp [setsUp, effect, Outcome.map, Outcome.isDone, h]

@[simp]
theorem setsUp_step (d : δ) (now : Nat) : (⟨d, .step now⟩ : Occasion δ).setsUp = false := by
  cases h : (Driver.step now d).outcome <;> simp [setsUp, effect, Outcome.map, h]

@[simp]
theorem steps_setUp (d : δ) (now : Nat) : (⟨d, .setUp now⟩ : Occasion δ).steps = false := by
  cases h : (Driver.setUp now d).outcome <;> simp [steps, effect, Outcome.map, h]

@[simp]
theorem steps_step (d : δ) (now : Nat) :
    (⟨d, .step now⟩ : Occasion δ).steps = (Driver.step now d).outcome.isDone := by
  cases h : (Driver.step now d).outcome <;> simp [steps, effect, Outcome.map, Outcome.isDone, h]

end Occasion

/-! ## The occasions of some uses -/

/-- The occasions of some calls, one after the other. -/
def occasions : List DriverUse → δ → List (Occasion δ)
  | [], _ => []
  | use :: uses, d => ⟨d, use⟩ :: occasions uses (DriverUse.run d use)

/-- The occasions since the last setup that ended well, or all of them when there is none. -/
def sinceSetUp (uses : List DriverUse) (d : δ) : List (Occasion δ) :=
  (occasions uses d).rtakeWhile fun o => !o.setsUp

/-- The steps that ended well since the last setup that did. -/
def stepsSinceSetUp (uses : List DriverUse) (d : δ) : List (Occasion δ) :=
  (sinceSetUp uses d).filter Occasion.steps

/-- One use more is one occasion more, at what the uses before it left. -/
theorem occasions_concat (uses : List DriverUse) (use : DriverUse) (d : δ) :
    occasions (uses ++ [use]) d = occasions uses d ++ [⟨afterUses uses d, use⟩] := by
  induction uses generalizing d with
  | nil => rfl
  | cons first uses ih => exact congrArg (_ :: ·) (ih (DriverUse.run d first))

section Concat

variable (uses : List DriverUse) (use : DriverUse) (d : δ)

/-- A setup that ends well begins anew, and any other call is one more since the last. -/
theorem sinceSetUp_concat :
    sinceSetUp (uses ++ [use]) d =
      if (⟨afterUses uses d, use⟩ : Occasion δ).setsUp then []
      else sinceSetUp uses d ++ [⟨afterUses uses d, use⟩] := by
  rw [sinceSetUp, occasions_concat, List.rtakeWhile_concat]
  cases (⟨afterUses uses d, use⟩ : Occasion δ).setsUp <;> rfl

theorem stepsSinceSetUp_concat :
    stepsSinceSetUp (uses ++ [use]) d =
      if (⟨afterUses uses d, use⟩ : Occasion δ).setsUp then []
      else if (⟨afterUses uses d, use⟩ : Occasion δ).steps then
        stepsSinceSetUp uses d ++ [⟨afterUses uses d, use⟩]
      else stepsSinceSetUp uses d := by
  rw [stepsSinceSetUp, sinceSetUp_concat]
  by_cases hsets : (⟨afterUses uses d, use⟩ : Occasion δ).setsUp
  · simp only [hsets, if_true, List.filter_nil]
  · by_cases hsteps : (⟨afterUses uses d, use⟩ : Occasion δ).steps
    · simp [hsets, hsteps, stepsSinceSetUp]
    · simp [hsets, hsteps, stepsSinceSetUp]

end Concat

/-! ## Progress -/

/-- The number of steps that ended well since the last setup that did. -/
def progress (uses : List DriverUse) (d : δ) : Nat := (stepsSinceSetUp uses d).length

/-- What is said of a driver by its progress stays true: a setup that ends well starts afresh, a
step that ends well moves on, and nothing else changes any of it. -/
structure Tracks (motive : Nat → δ → Prop) : Prop where
  setUp : ∀ {n d}, motive n d → ∀ now,
    motive (if (Driver.setUp now d).outcome.isDone then 0 else n) (Driver.setUp now d).state
  step : ∀ {n d}, motive n d → ∀ now,
    motive (if (Driver.step now d).outcome.isDone then n + 1 else n) (Driver.step now d).state

section Tracks

variable {motive : Nat → δ → Prop} {d : δ}

/-- What every call keeps up with holds of the steps since the setup, behind any uses. -/
theorem holds_at_progress (hmotive : Tracks motive) (h : motive 0 d) (uses : List DriverUse) :
    motive (progress uses d) (afterUses uses d) := by
  induction uses using List.reverseRecOn with
  | nil => exact h
  | append_singleton uses use ih =>
    unfold progress at ih ⊢
    rw [stepsSinceSetUp_concat, afterUses_concat]
    cases use with
    | setUp now =>
      have hnext := hmotive.setUp ih now
      rw [Occasion.setsUp_setUp, Occasion.steps_setUp]
      cases hdone : (Driver.setUp now (afterUses uses d)).outcome.isDone with
      | true => simpa [hdone, DriverUse.run] using hnext
      | false => simpa [hdone, DriverUse.run] using hnext
    | step now =>
      have hnext := hmotive.step ih now
      rw [Occasion.setsUp_step, Occasion.steps_step]
      cases hdone : (Driver.step now (afterUses uses d)).outcome.isDone with
      | true => simpa [hdone, DriverUse.run] using hnext
      | false => simpa [hdone, DriverUse.run] using hnext

/-- When the steps that end well show what their place says, they show it in order. -/
theorem map_stepsSinceSetUp {α : Type} {look : Occasion δ → α} {f : Nat → α}
    (hmotive : Tracks motive)
    (hlook : ∀ {n d now}, motive n d → (Driver.step now d).outcome.isDone →
      look ⟨d, .step now⟩ = f n)
    (h : motive 0 d) (uses : List DriverUse) :
    (stepsSinceSetUp uses d).map look = (List.range (progress uses d)).map f := by
  induction uses using List.reverseRecOn with
  | nil => rfl
  | append_singleton uses use ih =>
    have hbefore := holds_at_progress hmotive h uses
    unfold progress at ih hbefore ⊢
    rw [stepsSinceSetUp_concat]
    cases use with
    | setUp now =>
      rw [Occasion.setsUp_setUp, Occasion.steps_setUp]
      split
      · rfl
      · exact ih
    | step now =>
      rw [Occasion.setsUp_step, Occasion.steps_step]
      by_cases hdone : (Driver.step now (afterUses uses d)).outcome.isDone
      · have hlast := hlook hbefore hdone
        simp only [hdone, Bool.false_eq_true, if_false, if_true, List.map_append, List.map_singleton,
          List.length_append, List.length_singleton, List.range_succ, ih, hlast]
      · simpa only [hdone, Bool.false_eq_true, if_false] using ih

end Tracks

/-! ## Two drivers -/

/-- Drivers that show the same in a call, whenever a relation holds that the call keeps, show the
same in all calls. -/
theorem map_occasions {δ' α : Type} [Driver δ'] {R : δ → δ' → Prop} {look : Occasion δ → α}
    {look' : Occasion δ' → α}
    (hrun : ∀ use d d', R d d' → look ⟨d, use⟩ = look' ⟨d', use⟩ ∧
      R (DriverUse.run d use) (DriverUse.run d' use))
    {d : δ} {d' : δ'} (h : R d d') (uses : List DriverUse) :
    (occasions uses d).map look = (occasions uses d').map look' := by
  induction uses generalizing d d' with
  | nil => rfl
  | cons use uses ih =>
    obtain ⟨hlook, hnext⟩ := hrun use d d' h
    rw [occasions, occasions, List.map_cons, List.map_cons, hlook, ih hnext]

end Occasion

end Metronome
