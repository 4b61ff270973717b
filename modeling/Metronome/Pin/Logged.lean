import Metronome.Pin.Basic

/-!
# Pins that log

A pin of the desktop simulator. It logs every change of direction and, while it is an output, every
level written to it. As an input it only remembers the level.
-/

namespace Metronome

/-- A pin that logs what it does under its label. -/
structure LoggedPin where
  label : String
  direction : Direction := .input
  /-- The output latch. -/
  latch : Level := .low
deriving DecidableEq

namespace LoggedPin

/-- Remembers a level, and logs it while the pin is an output. -/
def write (level : Level) : Act LoggedPin Fault Unit := do
  Act.modify fun pin => { pin with latch := level }
  let pin ← Act.get
  if pin.direction = .output then
    let word := if level.isHigh then "HIGH" else "LOW"
    Act.emit (.log { severity := .info, source := .simulatedPeripherals, timed := true,
                     text := s!"{pin.label} -> {word}" })

/-- Logs a direction and takes it. -/
def setDirection (direction : Direction) : Act LoggedPin Fault Unit := do
  let pin ← Act.get
  Act.log .info .simulatedPeripherals s!"{pin.label} configured as {direction.name}"
  Act.modify fun pin => { pin with direction }

instance : LedPin LoggedPin where
  write
  isSetHigh := do return (← Act.get).latch.isHigh
  isSetLow := do return !(← Act.get).latch.isHigh
  setDirection
  direction pin := pin.direction

end LoggedPin

end Metronome
