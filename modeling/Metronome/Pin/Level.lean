/-!
# Levels and directions of a pin
-/

namespace Metronome

/-- The level that a pin is driven to. -/
inductive Level where
  | low
  | high
deriving DecidableEq

/-- The opposite level. -/
def Level.toggled : Level → Level
  | .low => .high
  | .high => .low

/-- The name that log records print. -/
def Level.name : Level → String
  | .low => "Low"
  | .high => "High"

/-- Whether the level is high. -/
def Level.isHigh : Level → Bool
  | .low => false
  | .high => true

/-- The configured direction of a pin. -/
inductive Direction where
  | input
  | output
deriving DecidableEq

/-- The name that log records print. -/
def Direction.name : Direction → String
  | .input => "Input"
  | .output => "Output"

@[simp]
theorem Level.toggled_toggled (l : Level) : l.toggled.toggled = l := by cases l <;> rfl

end Metronome
