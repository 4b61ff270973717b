import Metronome.Driver
import Metronome.Pin.Basic
import Metronome.Settings.Defaults

/-!
# Blinking an LED

One level per step, high first. The levels come from the driver's own phase (`onOff`) or from the
pin's latch, which is read back and inverted (`toggle`).
-/

namespace Metronome

/-- How the next level is chosen. -/
inductive BlinkStyle where
  /-- The driver keeps the phase. -/
  | onOff
  /-- The latch is read back and inverted. -/
  | toggle
deriving DecidableEq

/-- The cadence of a style. -/
def BlinkStyle.cadence : BlinkStyle → Cadence
  | .onOff => blinkOnOffCadence
  | .toggle => blinkToggleCadence

/-- A driver that blinks the LED on a pin. -/
structure Blink (π : Type) where
  pin : π
  style : BlinkStyle
  cadence : Cadence := style.cadence
  /-- The level of the next step, when the driver keeps the phase. -/
  phase : Level := .high

namespace Blink

variable {π : Type} [LedPin π]

/-- Uses the pin; an error is logged and becomes that of the LED pin. -/
def usePin (what operation : String) (x : Act π Fault Unit) : Act (Blink π) DriverError Unit :=
  (x.on Blink.pin fun pin blink => { blink with pin }).orElse fun e => do
    Act.log .error .blink s!"LED pin {what} failed: {e.name}"
    Act.fail (.peripheral "LED pin" operation)

/-- Drives the pin to a level. -/
def drive (level : Level) : Act (Blink π) DriverError Unit :=
  usePin s!"write {level.name}" "drive level" (LedPin.write level)

/-- Makes the pin an output at low level. -/
def setUp : Act (Blink π) DriverError Unit := do
  usePin "direction change" "switch to output" (LedPin.setDirection .output)
  drive .low
  Act.modify fun blink => { blink with phase := .high }

/-- Drives the level of the phase and takes the other one. -/
def stepOnOff : Act (Blink π) DriverError Unit := do
  let level := (← Act.get).phase
  drive level
  Act.modify fun blink => { blink with phase := level.toggled }
  Act.log .debug .blink s!"blink: {level.name}"

/-- Shows the next level. -/
def step : Act (Blink π) DriverError Step := do
  match (← Act.get).style with
  | .onOff => stepOnOff
  | .toggle => usePin "toggle" "toggle" LedPin.toggle
  pure .next

instance : Driver (Blink π) where
  name _ := "blink"
  cadence blink := blink.cadence
  setUp
  step

end Blink

end Metronome
