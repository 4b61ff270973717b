import Metronome.Pin.Basic

/-!
# Uses of a pin

Operations on a pin, one after the other, each at its own instant and whatever the one before it
came to. An occasion is an operation with the pin that it is done on, so all that it does can be
read off it.
-/

namespace Metronome

/-- An operation on a pin at some instant. -/
structure PinUse where
  now : Nat
  op : PinOp
deriving DecidableEq

/-- A pin and the operation that is done on it. -/
structure PinOccasion (π : Type) where
  pin : π
  use : PinUse

variable {π : Type} [LedPin π]

/-- What a use comes to on a pin. -/
def PinUse.effect (use : PinUse) (pin : π) : Effect π Fault PinAnswer := use.op.run use.now pin

/-- What an occasion comes to. -/
def PinOccasion.effect (o : PinOccasion π) : Effect π Fault PinAnswer := o.use.effect o.pin

/-- The occasions of some uses, each on the pin that the ones before it left. -/
def pinOccasions : List PinUse → π → List (PinOccasion π)
  | [], _ => []
  | use :: uses, pin => ⟨pin, use⟩ :: pinOccasions uses (use.effect pin).state

/-- The pin behind some uses. -/
def afterPinUses : List PinUse → π → π
  | [], pin => pin
  | use :: uses, pin => afterPinUses uses (use.effect pin).state

/-- What some operations come to. -/
def pinOutcomes (uses : List PinUse) (pin : π) : List (Outcome Fault PinAnswer) :=
  (pinOccasions uses pin).map fun o => o.effect.outcome

/-! ## What every operation keeps -/

section Kept

variable {motive : π → Prop}

/-- What every use keeps holds behind any uses. -/
theorem holds_afterPinUses (hop : ∀ (use : PinUse) pin, motive pin → motive (use.effect pin).state)
    {pin : π} (h : motive pin) (uses : List PinUse) : motive (afterPinUses uses pin) := by
  induction uses generalizing pin with
  | nil => exact h
  | cons use uses ih => exact ih (hop use pin h)

theorem holds_on_pinOccasions
    (hop : ∀ (use : PinUse) pin, motive pin → motive (use.effect pin).state)
    {pin : π} (h : motive pin) (uses : List PinUse) {o : PinOccasion π}
    (ho : o ∈ pinOccasions uses pin) : motive o.pin := by
  induction uses generalizing pin with
  | nil => cases ho
  | cons use uses ih =>
    rcases List.mem_cons.mp ho with rfl | ho
    · exact h
    · exact ih (hop use pin h) ho

end Kept

end Metronome
