import Metronome.Act

/-!
# LED pins

A pin whose direction is set while the program runs and whose output latch can be read back.
-/

namespace Metronome

/-- A pin that can drive an LED. -/
class LedPin (π : Type) where
  /-- Drives the pin to a level. -/
  write : Level → Act π Fault Unit
  /-- Whether the output latch is high. -/
  isSetHigh : Act π Fault Bool
  /-- Whether the output latch is low. -/
  isSetLow : Act π Fault Bool
  /-- Makes the pin an input or an output. -/
  setDirection : Direction → Act π Fault Unit
  /-- The direction as the pin knows it. -/
  direction : π → Direction

namespace LedPin

variable {π : Type} [LedPin π]

/-- Reads the latch back and drives the opposite level. -/
def toggle : Act π Fault Unit := do
  if ← isSetLow then write .high else write .low

end LedPin

/-! ## Operations as data -/

/-- One operation on a pin. -/
inductive PinOp where
  | write (level : Level)
  | toggle
  | isSetHigh
  | isSetLow
  | setDirection (direction : Direction)
  | getDirection
deriving DecidableEq

/-- What an operation answers. -/
inductive PinAnswer where
  | done
  | read (value : Bool)
  | direction (direction : Direction)
deriving DecidableEq

/-- Does an operation. -/
def PinOp.run {π : Type} [LedPin π] : PinOp → Act π Fault PinAnswer
  | .write level => do LedPin.write level; pure .done
  | .toggle => do LedPin.toggle; pure .done
  | .isSetHigh => do return .read (← LedPin.isSetHigh)
  | .isSetLow => do return .read (← LedPin.isSetLow)
  | .setDirection direction => do LedPin.setDirection direction; pure .done
  | .getDirection => do return .direction (LedPin.direction (← Act.get))

end Metronome
