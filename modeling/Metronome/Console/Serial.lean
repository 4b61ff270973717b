import Metronome.Console.Basic
import Metronome.Script
import Metronome.Settings.Defaults

/-!
# The serial console of the chip

Text goes out as UTF-8 bytes. The line may take fewer bytes than it is offered, so what is left is
offered again until all is taken or the line fails. A line that takes nothing without failing aborts
the program.
-/

namespace Metronome

/-- A serial line. -/
structure SerialLine where
  /-- The most bytes it takes in one write. -/
  chunk : Option Nat := none
  /-- The bytes after which it fails. -/
  limit : Option Nat := none
  /-- The bytes it has taken. -/
  taken : Nat := 0
deriving DecidableEq

namespace SerialLine

/-- Whether the line fails now. -/
def exhausted (line : SerialLine) : Bool :=
  match line.limit with
  | none => false
  | some limit => limit ≤ line.taken

/-- How many of `offered` bytes the line takes in one write. -/
def accepted (line : SerialLine) (offered : Nat) : Nat :=
  let chunked := min offered (line.chunk.getD offered)
  match line.limit with
  | none => chunked
  | some limit => min chunked (limit - line.taken)

theorem accepted_le (line : SerialLine) (offered : Nat) : line.accepted offered ≤ offered := by
  unfold accepted
  grind

/-- Offers some bytes until all are taken. -/
def sendBytes (bytes : List UInt8) (line : SerialLine) : Effect SerialLine Fault Unit :=
  if bytes = [] then
    ⟨.done (), line, []⟩
  else if line.exhausted then
    ⟨.failed ⟨"UartFault"⟩, line, []⟩
  else if line.accepted bytes.length = 0 then
    ⟨.aborted ⟨"write() returned Ok(0)"⟩, line, []⟩
  else
    let n := line.accepted bytes.length
    let rest := sendBytes (bytes.drop n) { line with taken := line.taken + n }
    { rest with trace := .serial (bytes.take n) :: rest.trace }
termination_by bytes.length
decreasing_by
  have := line.accepted_le bytes.length
  have : bytes.length ≠ 0 := by simpa using ‹¬bytes = []›
  simp only [List.length_drop]
  omega

/-- Writes a text and logs when the line fails. -/
def write (text : String) : Act SerialLine WriteFault Unit :=
  Act.orElse (fun _ line => sendBytes text.toUTF8.toList line) fun e => do
    Act.log .error .serialConsole s!"console write failed: {e.name}"
    Act.fail .refused

instance : Console SerialLine where
  write

/-- Opens the line on the pins of the board's serial bridge. `outcome` is what the chip answers. -/
def openBridge (outcome : Script Fault) : Act SerialLine DriverError Unit := do
  Act.emit (.chip (.openUart consoleBaudRate))
  (Act.ofExcept outcome.next).orElse fun e => do
    Act.log .error .serialConsole s!"UART0 configuration failed: {e.name}"
    Act.fail (.peripheral "UART0" "configure")
  Act.emit (.chip (.uartTx 43))
  Act.emit (.chip (.uartRx 44))

end SerialLine

end Metronome
