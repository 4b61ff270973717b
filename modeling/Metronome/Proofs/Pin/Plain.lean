import Metronome.Proofs.Pin.Uses

/-!
# Plain pins

All that a program can tell of a pin is its direction and the level of its latch. A plain pin is
just these two. A pin that acts like a plain one in each of its own operations
(`PlainPin.Shows`) does so in all that is done on it, also where it is toggled by reading the latch
back (`PlainPin.Shows.run`, `PlainPin.Shows.pinOutcomes_eq`).
-/

namespace Metronome

/-- A direction and the level of the latch. -/
structure PlainPin where
  direction : Direction := .input
  level : Level := .low
deriving DecidableEq

namespace PlainPin

/-- The pin behind an operation. -/
def after (pin : PlainPin) : PinOp → PlainPin
  | .write level => { pin with level }
  | .toggle => { pin with level := pin.level.toggled }
  | .setDirection direction => { pin with direction }
  | .isSetHigh | .isSetLow | .getDirection => pin

/-- What the pin answers to an operation. -/
def answer (pin : PlainPin) : PinOp → PinAnswer
  | .isSetHigh => .read pin.level.isHigh
  | .isSetLow => .read !pin.level.isHigh
  | .getDirection => .direction pin.direction
  | .write _ | .toggle | .setDirection _ => .done

/-- What the pin answers to some operations in a row. -/
def answers : List PinOp → PlainPin → List PinAnswer
  | [], _ => []
  | op :: ops, pin => pin.answer op :: answers ops (pin.after op)

/-- The level of the latch behind an operation, whatever the direction is. -/
def levelAfter (level : Level) : PinOp → Level
  | .write level => level
  | .toggle => level.toggled
  | .isSetHigh | .isSetLow | .setDirection _ | .getDirection => level

/-- No change of direction comes into the level that a pin is left with. -/
theorem level_foldl_after (ops : List PinOp) (pin : PlainPin) :
    (ops.foldl after pin).level = ops.foldl levelAfter pin.level := by
  induction ops generalizing pin with
  | nil => rfl
  | cons op ops ih =>
    rw [List.foldl_cons, List.foldl_cons, ih]
    cases op <;> rfl

variable {π α β : Type}

/-- An effect on a pin ends well with a value, and leaves a sound pin that looks like a given plain
one. -/
structure EndsWith (view : π → PlainPin) (sound : π → Prop) (e : Effect π Fault α) (a : α)
    (pin : PlainPin) : Prop where
  outcome : e.outcome = .done a
  view : view e.state = pin
  sound : sound e.state

variable {view : π → PlainPin} {sound : π → Prop}

theorem EndsWith.bind {x : Act π Fault α} {f : α → Act π Fault β} {now : Nat} {pin : π} {a : α}
    {b : β} {mid last : PlainPin} (hx : EndsWith view sound (x now pin) a mid)
    (hf : ∀ p, sound p → view p = mid → EndsWith view sound (f a now p) b last) :
    EndsWith view sound ((x >>= f) now pin) b last := by
  obtain ⟨hout, hview, hsound⟩ := hf (x now pin).state hx.sound hx.view
  constructor <;> rw [Act.bind_apply, hx.outcome] <;> assumption

theorem EndsWith.bind_pure {x : Act π Fault α} {now : Nat} {pin : π} {a : α} {last : PlainPin}
    (hx : EndsWith view sound (x now pin) a last) (g : α → β) :
    EndsWith view sound ((x >>= fun a => pure (g a)) now pin) (g a) last :=
  hx.bind fun _ hp hview => ⟨rfl, hview, hp⟩

/-- Sound pins show a plain pin, and act like it in the operations that they bring themselves. -/
structure Shows [LedPin π] (view : π → PlainPin) (sound : π → Prop) : Prop where
  write : ∀ level now pin, sound pin →
    EndsWith view sound (LedPin.write level now pin) () { view pin with level }
  isSetHigh : ∀ now pin, sound pin →
    EndsWith view sound (LedPin.isSetHigh now pin) (view pin).level.isHigh (view pin)
  isSetLow : ∀ now pin, sound pin →
    EndsWith view sound (LedPin.isSetLow now pin) (!(view pin).level.isHigh) (view pin)
  setDirection : ∀ direction now pin, sound pin →
    EndsWith view sound (LedPin.setDirection direction now pin) () { view pin with direction }
  direction : ∀ pin, sound pin → LedPin.direction pin = (view pin).direction

namespace Shows

variable [LedPin π]

/-- The latch that is read back is that of the plain pin, so the other level is driven. -/
theorem toggle (h : Shows view sound) (now : Nat) {pin : π} (hpin : sound pin) :
    EndsWith view sound (LedPin.toggle now pin) () ((view pin).after .toggle) := by
  refine (h.isSetLow now pin hpin).bind fun p hp hview => ?_
  rw [← hview, after]
  cases hlevel : (view p).level with
  | low => exact h.write .high now p hp
  | high => exact h.write .low now p hp

/-- A pin that acts like a plain one in the operations it brings does so in every operation. -/
theorem run (h : Shows view sound) (op : PinOp) (now : Nat) {pin : π} (hpin : sound pin) :
    EndsWith view sound (op.run now pin) ((view pin).answer op) ((view pin).after op) := by
  cases op with
  | write level => exact (h.write level now pin hpin).bind_pure _
  | toggle => exact (h.toggle now hpin).bind_pure _
  | isSetHigh => exact (h.isSetHigh now pin hpin).bind_pure _
  | isSetLow => exact (h.isSetLow now pin hpin).bind_pure _
  | setDirection direction => exact (h.setDirection direction now pin hpin).bind_pure _
  | getDirection =>
    refine ⟨?_, rfl, hpin⟩
    rw [answer, ← h.direction pin hpin]
    rfl

/-- A pin that acts like a plain one gives its answers. -/
theorem pinOutcomes_eq (h : Shows view sound) (uses : List PinUse) {pin : π} (hpin : sound pin) :
    pinOutcomes uses pin = ((view pin).answers (uses.map (·.op))).map .done := by
  induction uses generalizing pin with
  | nil => rfl
  | cons use uses ih =>
    obtain ⟨hout, hview, hsound⟩ := h.run use.op use.now hpin
    have hrest := ih hsound
    rw [hview] at hrest
    exact List.cons_eq_cons.mpr ⟨hout, hrest⟩

theorem afterPinUses (h : Shows view sound) (uses : List PinUse) {pin : π} (hpin : sound pin) :
    sound (afterPinUses uses pin) ∧
    view (Metronome.afterPinUses uses pin) = (uses.map (·.op)).foldl after (view pin) := by
  induction uses generalizing pin with
  | nil => exact ⟨hpin, rfl⟩
  | cons use uses ih =>
    obtain ⟨-, hview, hsound⟩ := h.run use.op use.now hpin
    obtain ⟨hlast, hafter⟩ := ih hsound
    exact ⟨hlast, hafter.trans (by rw [hview]; rfl)⟩

end Shows

end PlainPin

end Metronome
