import Metronome.Pin.Scripted
import Metronome.Script
import Metronome.Strip.Basic

/-!
# Scripted strips and writers

A strip that replays planned outcomes, a strip that notes when it showed what, and two frame
writers: one with planned faults and the terminal of the desktop simulator.
-/

namespace Metronome

/-! ## A strip with planned outcomes -/

/-- A strip that records its calls and replays planned outcomes. -/
structure ScriptedStrip where
  pixels : List Rgb
  sets : Script DriverError := []
  sends : Script DriverError := []

namespace ScriptedStrip

instance : PixelStrip ScriptedStrip where
  length strip := strip.pixels.length
  setBrightness brightness := Act.emit (.strip (.setBrightness brightness))
  setPixel index colour := do
    Act.emit (.strip (.setPixel index colour))
    Act.play sets fun script strip => { strip with sets := script }
    Act.modify fun strip => { strip with pixels := strip.pixels.set index colour }
  sendFrame := do
    Act.emit (.strip .send)
    Act.play sends fun script strip => { strip with sends := script }

end ScriptedStrip

/-! ## A strip on a virtual clock -/

/-- The first pixel at the time a frame was shown. -/
structure Shown where
  /-- Microseconds since the start. -/
  time : Nat
  colour : Rgb
deriving DecidableEq

/-- A strip that notes each frame with its time. -/
structure TimedStrip where
  pixels : List Rgb
  brightness : UInt8 := 255
  /-- All frames so far, in order. -/
  shown : List Shown := []
deriving DecidableEq

namespace TimedStrip

/-- Sets the colour of a pixel; there has to be one. -/
def setPixel (index : Nat) (colour : Rgb) : Act TimedStrip DriverError Unit := do
  if (← Act.get).pixels.length ≤ index then Act.fail (.peripheral "mock strip" "address pixel")
  Act.modify fun strip => { strip with pixels := strip.pixels.set index colour }

instance : PixelStrip TimedStrip where
  length strip := strip.pixels.length
  setBrightness brightness := Act.modify fun strip => { strip with brightness }
  setPixel
  sendFrame := do
    let time ← Act.now
    Act.modify fun strip =>
      { strip with shown := strip.shown ++ [⟨time, strip.pixels.head?.getD .black⟩] }

end TimedStrip

/-! ## Frame writers -/

/-- A writer whose failing calls are planned by number. -/
structure ScriptedWriter where
  failWrites : FaultPlan := .none
  /-- Calls so far. -/
  calls : Nat := 0
  /-- Frames taken so far. -/
  frames : Nat := 0

namespace ScriptedWriter

instance : FrameWriter ScriptedWriter where
  write pixels := do
    let writer ← Act.get
    let failed := writer.failWrites writer.calls
    Act.emit (.frame pixels failed)
    Act.modify fun writer => { writer with calls := writer.calls + 1 }
    if failed then Act.fail ⟨"WriterFault"⟩
    Act.modify fun writer => { writer with frames := writer.frames + 1 }

end ScriptedWriter

/-- The terminal of the desktop simulator, which shows frames as coloured blocks. -/
structure TerminalPixels where
  /-- Whether the terminal takes nothing. -/
  full : Bool := false
deriving DecidableEq

namespace TerminalPixels

/-- The error of a terminal that takes nothing. -/
def fault : Fault :=
  ⟨"Os \x7b code: 28, kind: StorageFull, message: \"No space left on device\" \x7d"⟩

instance : FrameWriter TerminalPixels where
  write pixels := do
    let terminal ← Act.get
    Act.emit (.frame pixels terminal.full)
    if terminal.full then Act.fail fault

/-- A frame as the terminal shows it: a block per pixel and the end of the line. -/
def paint (pixels : List Rgb) : String :=
  let block (p : Rgb) := s!"\x1b[48;2;{p.red};{p.green};{p.blue}m    \x1b[0m "
  String.join (pixels.map block) ++ "\n"

end TerminalPixels

end Metronome
