import Metronome.Board.Banner
import Metronome.Board.Nvs
import Metronome.Driver
import Metronome.Settings.Defaults

/-!
# Greeting and restart

The setup greets and describes the chip. Then each step prints one line of a countdown, and the step
after the last line asks for a reset.
-/

namespace Metronome

/-- A driver that counts down to a reset. -/
structure HelloWorld (β κ : Type) where
  board : β
  console : κ
  /-- The number of the next line; none when the countdown is over. -/
  countdown : Option Nat := some countdownStart

namespace HelloWorld

/-- The number after a number of the countdown; zero is the last. -/
def countedDown : Nat → Option Nat
  | 0 => none
  | n + 1 => some n

/-- The pieces of a line of the countdown. -/
def countdownLine (n : Nat) : List String := ["Restarting in ", toString n, " seconds...\n"]

variable {β κ : Type} [Board β] [Console κ]

/-- Uses the board. -/
def useBoard {ε α : Type} (x : Act β ε α) : Act (HelloWorld β κ) ε α :=
  x.on HelloWorld.board fun board hello => { hello with board }

/-- Uses the console. -/
def useConsole (x : Act κ DriverError Unit) : Act (HelloWorld β κ) DriverError Unit :=
  x.on HelloWorld.console fun console hello => { hello with console }

/-- Brings the store up, greets and starts the countdown. -/
def setUp : Act (HelloWorld β κ) DriverError Unit := do
  useBoard initNvs
  useConsole (Console.print ["Hello world!\n"])
  useConsole (printBanner (Board.chipInfo (← Act.get).board))
  let free ← (useBoard MemoryStats.minFreeHeap).sure
  useConsole (Console.print ["Minimum free heap size: ", toString free, " bytes\n"])
  Act.modify fun hello => { hello with countdown := some countdownStart }

/-- Prints the next line. -/
def step : Act (HelloWorld β κ) DriverError Step := do
  match (← Act.get).countdown with
  | some n =>
    useConsole (Console.print (countdownLine n))
    Act.modify fun hello => { hello with countdown := countedDown n }
    pure .next
  | none =>
    useConsole (Console.print ["Restarting now.\n"])
    pure .restart

instance : Driver (HelloWorld β κ) where
  name _ := "hello-world"
  cadence _ := helloWorldCadence
  setUp
  step

end HelloWorld

end Metronome
