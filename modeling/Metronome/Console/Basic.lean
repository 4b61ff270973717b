import Metronome.Act

/-!
# Consoles

A console takes text piece by piece. A line that is put together from several pieces stops at the
first piece that is refused.
-/

namespace Metronome

/-- Something that text can be written to. -/
class Console (κ : Type) where
  /-- Writes a text. -/
  write : String → Act κ WriteFault Unit

namespace Console

variable {κ : Type} [Console κ]

/-- Writes some pieces one after the other. -/
def writeAll : List String → Act κ WriteFault Unit
  | [] => pure ()
  | piece :: pieces => do write piece; writeAll pieces

/-- Writes some pieces for a driver. -/
def print (pieces : List String) : Act κ DriverError Unit :=
  (writeAll pieces).mapError fun _ => .console

end Console

end Metronome
