import Metronome.Runner.Basic

/-!
# Default settings

The values that every target of the program shares, and those that the firmware is built with.
-/

namespace Metronome

/-- The speed of the serial console. -/
def consoleBaudRate : Nat := 115200

/-- An LED that is switched on and off: one level per second. -/
def blinkOnOffCadence : Cadence := ⟨1000000, by decide⟩

/-- An LED that is toggled: one level per half second. -/
def blinkToggleCadence : Cadence := ⟨500000, by decide⟩

/-- The time between two scans. -/
def wifiScanCadence : Cadence := ⟨5000000, by decide⟩

/-- The most access points of one report. -/
def maxAccessPoints : Nat := 32

/-- The longest network name, in bytes. -/
def maxSsidBytes : Nat := 32

/-- The time between two colours. -/
def rgbCycleCadence : Cadence := ⟨1000000, by decide⟩

/-- The brightness of the pixel strip. -/
def rgbBrightness : UInt8 := 30

/-- The time between two lines of the countdown. -/
def helloWorldCadence : Cadence := ⟨1000000, by decide⟩

/-- The first number of the countdown. -/
def countdownStart : Nat := 10

/-- What the firmware is built with. -/
structure FirmwareSettings where
  /-- Whether the LED is toggled. -/
  blinkToggle : Bool
  flashSizeMegabytes : Nat
  primaryLevel : Nat
  secondaryLevel : Nat
deriving DecidableEq

/-- The values of the settings file that comes with the firmware. -/
def FirmwareSettings.standard : FirmwareSettings where
  blinkToggle := false
  flashSizeMegabytes := 8
  primaryLevel := 3
  secondaryLevel := 4

end Metronome
