import Metronome.Strip.Basic

/-!
# Frame buffers

A pixel strip on top of a frame writer. The buffer keeps the colours as they were set; they are
scaled only in the frame that is sent, so showing a frame twice sends it twice alike.
-/

namespace Metronome

/-- The pixels of a strip and the writer that takes its frames. -/
structure FrameBuffer (ω : Type) where
  writer : ω
  /-- The colours as they were set. -/
  pixels : List Rgb
  brightness : UInt8 := 255
deriving DecidableEq

namespace FrameBuffer

variable {ω : Type}

/-- A dark strip of some length. -/
def dark (length : Nat) (writer : ω) : FrameBuffer ω :=
  { writer, pixels := List.replicate length .black }

/-- The frame that is sent. -/
def frame (b : FrameBuffer ω) : List Rgb := b.pixels.map (Rgb.scale b.brightness)

/-- Sets the colour of a pixel; there has to be one. -/
def setPixel (index : Nat) (colour : Rgb) : Act (FrameBuffer ω) DriverError Unit := do
  let length := (← Act.get).pixels.length
  if length ≤ index then
    Act.log .error .frameBuffer s!"pixel {index} out of range for a strip of {length}"
    Act.fail (.peripheral "pixel strip" "address pixel")
  Act.modify fun b => { b with pixels := b.pixels.set index colour }

/-- Sends the scaled pixels to the writer. -/
def sendFrame [FrameWriter ω] : Act (FrameBuffer ω) DriverError Unit := do
  let frame := (← Act.get).frame
  let sent := (FrameWriter.write frame).on FrameBuffer.writer fun writer b => { b with writer }
  sent.orElse fun e => do
    Act.log .error .frameBuffer s!"pixel strip write failed: {e.name}"
    Act.fail (.peripheral "pixel strip" "write frame")

instance [FrameWriter ω] : PixelStrip (FrameBuffer ω) where
  length b := b.pixels.length
  setBrightness brightness := Act.modify fun b => { b with brightness }
  setPixel
  sendFrame

end FrameBuffer

end Metronome
