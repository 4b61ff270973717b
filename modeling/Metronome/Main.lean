import Metronome.Simulator.Play

/-!
# The simulator's command line

Reads the arguments, does a demo part by part and plays what each part did: text goes to the two
output streams and delays are slept. All decisions are made by the library.
-/

namespace Metronome

/-- How a running demo is played. -/
structure Player where
  filter : LogFilter
  /-- Whether no time is slept. -/
  fast : Bool
  /-- The start, in milliseconds of the system's clock. -/
  started : Nat

namespace Player

/-- Plays one event. -/
def playEvent (player : Player) (event : Event) : IO Unit := do
  match event with
  | .delay call => unless player.fast do IO.sleep (.ofNat (call.duration / 1000))
  | event =>
    let out ← IO.getStdout
    let err ← IO.getStderr
    let stamp := timeStamp ((← IO.monoMsNow) - player.started)
    out.putStr event.outText
    out.flush
    err.putStr (event.errText player.filter stamp)
    err.flush

/-- Plays a trace. -/
def play (player : Player) (trace : Trace) : IO Unit := trace.forM player.playEvent

/-- Plays a process from one of its parts on. -/
partial def playFrom {δ : Type} [Driver δ] (player : Player) (part : Part δ) : IO UInt32 := do
  player.play part.trace
  match part.standing with
  | .underway next => playFrom player next.part
  | .exited code => return .ofNat (code.getD 0)
  | .aborted abort =>
    IO.eprintln abort.message
    return .ofNat abortedExit

/-- Plays a demo. -/
def playDemo (player : Player) (arguments : Arguments) : IO UInt32 := do
  player.play [openingRecord arguments.demo]
  match arguments.demo with
  | .blink => player.playFrom (.first arguments.steps (simulatedBlink .onOff))
  | .blinkToggle => player.playFrom (.first arguments.steps (simulatedBlink .toggle))
  | .wifiScan => player.playFrom (.first arguments.steps (simulatedScan {}))
  | .rgbCycle => player.playFrom (.first arguments.steps (simulatedCycle {}))
  | .helloWorld => player.playFrom (.first arguments.steps (simulatedHello {}))

end Player

/-- Does what the arguments ask for. -/
def runArguments (args : List String) : IO UInt32 := do
  let reading := LogFilter.ofString? (← IO.getEnv "RUST_LOG")
  IO.eprint reading.warnings
  match Invocation.ofArguments args with
  | .simulate arguments =>
    let player : Player :=
      { filter := reading.filter, fast := arguments.fast, started := ← IO.monoMsNow }
    player.playDemo arguments
  | other =>
    let result := resultOf {} 0 reading.filter "" other
    IO.print result.out
    IO.eprint result.err
    return .ofNat (result.exit.getD 0)

end Metronome

/-- The simulator. -/
def main (args : List String) : IO UInt32 := Metronome.runArguments args
