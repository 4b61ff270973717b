import Metronome.Pin.Basic

/-!
# Pins that record edges

A pin on a virtual clock. While it is an output it records each change of level with the instant of
the change; the first level written as an output is recorded in any case.
-/

namespace Metronome

/-- A recorded level. -/
structure Edge where
  /-- Microseconds since the start. -/
  time : Nat
  level : Level
deriving DecidableEq

/-- A pin that records its edges. -/
structure EdgePin where
  direction : Direction := .input
  /-- The output latch. -/
  latch : Level := .low
  /-- All edges so far, in order. -/
  edges : List Edge := []
  /-- Whether writes fail. -/
  failWrites : Bool := false
deriving DecidableEq

namespace EdgePin

/-- The error of a failing write. -/
def fault : Fault := ⟨"MockPinError"⟩

/-- The pin after a level is written at some instant. -/
def driven (now : Nat) (level : Level) (pin : EdgePin) : EdgePin :=
  if pin.direction = .output ∧ (pin.latch ≠ level ∨ pin.edges = []) then
    { pin with latch := level, edges := pin.edges ++ [⟨now, level⟩] }
  else
    { pin with latch := level }

/-- Writes a level unless writes fail. -/
def write (level : Level) : Act EdgePin Fault Unit := do
  if (← Act.get).failWrites then Act.fail fault
  Act.modify (driven (← Act.now) level)

instance : LedPin EdgePin where
  write
  isSetHigh := do return (← Act.get).latch.isHigh
  isSetLow := do return !(← Act.get).latch.isHigh
  setDirection direction := Act.modify fun pin => { pin with direction }
  direction pin := pin.direction

end EdgePin

end Metronome
