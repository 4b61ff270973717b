/-!
# Pixel colours

A pixel has three channels of eight bits. A frame is scaled by a brightness `b` when it is sent:
a channel `c` becomes `c * (b + 1) / 256`, so full brightness sends `c` itself.
-/

namespace Metronome

/-- The colour of one pixel. -/
structure Rgb where
  red : UInt8
  green : UInt8
  blue : UInt8
deriving DecidableEq

/-- A dark pixel. -/
def Rgb.black : Rgb := ⟨0, 0, 0⟩

/-- A channel as it is sent at brightness `b`. -/
def scaleChannel (b c : UInt8) : UInt8 := UInt8.ofNat (c.toNat * (b.toNat + 1) / 256)

/-- A pixel as it is sent at brightness `b`. -/
def Rgb.scale (b : UInt8) (p : Rgb) : Rgb :=
  ⟨scaleChannel b p.red, scaleChannel b p.green, scaleChannel b p.blue⟩

end Metronome
