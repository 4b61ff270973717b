import Metronome.Act

/-!
# Pixel strips

An addressable strip of RGB pixels. Pixels are buffered until the frame is shown.
-/

namespace Metronome

/-- A strip of pixels. -/
class PixelStrip (τ : Type) where
  /-- The number of pixels. -/
  length : τ → Nat
  /-- Sets the brightness of all frames from now on. -/
  setBrightness : UInt8 → Act τ Empty Unit
  /-- Sets the colour of the pixel at a place. -/
  setPixel : Nat → Rgb → Act τ DriverError Unit
  /-- Sends the frame. -/
  sendFrame : Act τ DriverError Unit

/-- One operation on a strip. -/
inductive StripOp where
  | setBrightness (brightness : UInt8)
  | setPixel (index : Nat) (colour : Rgb)
  | sendFrame
deriving DecidableEq

/-- Does an operation. -/
def StripOp.run {τ : Type} [PixelStrip τ] : StripOp → Act τ DriverError Unit
  | .setBrightness brightness => (PixelStrip.setBrightness brightness : Act τ Empty Unit).sure
  | .setPixel index colour => PixelStrip.setPixel index colour
  | .sendFrame => PixelStrip.sendFrame

/-- Something that takes frames of scaled pixels. -/
class FrameWriter (ω : Type) where
  /-- Takes a frame. -/
  write : List Rgb → Act ω Fault Unit

end Metronome
