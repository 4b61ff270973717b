import Metronome.Console.Basic
import Metronome.Text.Fitting

/-!
# Bounded consoles

A console that takes a limited number of bytes in all, and the standard output of a process.
-/

namespace Metronome

/-! ## A limited number of bytes -/

/-- A console with a limit on the bytes it takes. -/
structure BoundedConsole where
  /-- The bytes it takes in all. -/
  limit : Option Nat := none
  /-- The bytes it has taken. -/
  taken : Nat := 0
deriving DecidableEq

namespace BoundedConsole

/-- What a console with a limit still takes of a text. -/
def accepted (console : BoundedConsole) (text : String) : String :=
  match console.limit with
  | none => text
  | some limit => String.ofList (fitting (limit - console.taken) text.toList)

/-- Takes what fits, and refuses the text if that is not all of it. -/
def write (text : String) : Act BoundedConsole WriteFault Unit := do
  let accepted := (← Act.get).accepted text
  if accepted ≠ "" then Act.emit (.console accepted)
  Act.modify fun console => { console with taken := console.taken + accepted.utf8ByteSize }
  if accepted ≠ text then Act.fail .refused

instance : Console BoundedConsole where
  write

end BoundedConsole

/-! ## Standard output -/

/-- The standard output of a process. -/
structure OutputStream where
  /-- Whether the stream takes nothing. -/
  full : Bool := false
deriving DecidableEq

namespace OutputStream

/-- Writes a text; a full stream takes the empty one only. -/
def write (text : String) : Act OutputStream WriteFault Unit := do
  if text ≠ "" then
    if (← Act.get).full then Act.fail .refused
    Act.emit (.console text)

instance : Console OutputStream where
  write

end OutputStream

end Metronome
