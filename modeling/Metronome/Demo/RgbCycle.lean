import Metronome.Board.Basic
import Metronome.Console.Basic
import Metronome.Driver
import Metronome.Settings.Defaults
import Metronome.Strip.Basic

/-!
# Cycling a pixel through colours

The first pixel of a strip shows red, green, blue and white in turn. After each colour the free
external memory is reported.
-/

namespace Metronome

/-- A colour of the cycle. -/
inductive Colour where
  | red
  | green
  | blue
  | white
deriving DecidableEq

namespace Colour

/-- The channels of a colour. -/
def rgb : Colour → Rgb
  | .red => ⟨255, 0, 0⟩
  | .green => ⟨0, 255, 0⟩
  | .blue => ⟨0, 0, 255⟩
  | .white => ⟨255, 255, 255⟩

/-- The colour after a colour. -/
def next : Colour → Colour
  | .red => .green
  | .green => .blue
  | .blue => .white
  | .white => .red

/-- The colour some places further in the cycle. -/
def advance (c : Colour) : Nat → Colour
  | 0 => c
  | n + 1 => c.next.advance n

/-- The name that log records print. -/
def name : Colour → String
  | .red => "Red"
  | .green => "Green"
  | .blue => "Blue"
  | .white => "White"

end Colour

/-- A driver that cycles the first pixel of a strip. -/
structure RgbCycle (τ μ κ : Type) where
  strip : τ
  memory : μ
  console : κ
  /-- The colour of the next step. -/
  colour : Colour := .red

namespace RgbCycle

variable {τ μ κ : Type} [PixelStrip τ] [MemoryStats μ] [Console κ]

/-- Uses the strip. -/
def useStrip {ε : Type} (x : Act τ ε Unit) : Act (RgbCycle τ μ κ) ε Unit :=
  x.on RgbCycle.strip fun strip cycle => { cycle with strip }

/-- Takes a reading of the free external memory. -/
def readMemory : Act (RgbCycle τ μ κ) DriverError Nat :=
  (Act.on RgbCycle.memory (fun memory cycle => { cycle with memory }) MemoryStats.freeExternal).sure

/-- Uses the console. -/
def useConsole (x : Act κ DriverError Unit) : Act (RgbCycle τ μ κ) DriverError Unit :=
  x.on RgbCycle.console fun console cycle => { cycle with console }

/-- Sets the brightness and starts with red; there has to be a pixel. -/
def setUp : Act (RgbCycle τ μ κ) DriverError Unit := do
  if PixelStrip.length (← Act.get).strip = 0 then
    Act.fail (.peripheral "pixel strip" "find a pixel")
  (useStrip (PixelStrip.setBrightness rgbBrightness)).sure
  Act.modify fun cycle => { cycle with colour := .red }

/-- Shows the next colour and reports the free memory. -/
def step : Act (RgbCycle τ μ κ) DriverError Step := do
  let colour := (← Act.get).colour
  useStrip (PixelStrip.setPixel 0 colour.rgb)
  useStrip PixelStrip.sendFrame
  Act.log .debug .rgbCycle s!"rgb-cycle: {colour.name}"
  let free ← readMemory
  useConsole (Console.print ["PSRAM free: ", toString free, " bytes\n"])
  Act.modify fun cycle => { cycle with colour := colour.next }
  pure .next

instance : Driver (RgbCycle τ μ κ) where
  name _ := "rgb-cycle"
  cadence _ := rgbCycleCadence
  setUp
  step

end RgbCycle

end Metronome
