import Metronome.Board.Desktop
import Metronome.Console.Bounded
import Metronome.Demo.Blink
import Metronome.Demo.HelloWorld
import Metronome.Demo.RgbCycle
import Metronome.Demo.WifiScan
import Metronome.Pin.Logged
import Metronome.Radio.Drifting
import Metronome.Runner.Endless
import Metronome.Simulator.Arguments
import Metronome.Simulator.Logging
import Metronome.Strip.FrameBuffer
import Metronome.Strip.Scripted

/-!
# Simulator runs

A demo on simulated peripherals as a process: what it does, what it prints and how it exits. Console
text goes to the standard output; log lines and pixel frames go to the standard error.
-/

namespace Metronome

/-- The two output streams of a process. -/
structure Streams where
  /-- Whether the standard output takes nothing. -/
  outFull : Bool := false
  /-- Whether the standard error takes nothing. -/
  errFull : Bool := false
deriving DecidableEq

/-- What a process does and how it exits. -/
structure ProcessRun where
  trace : Trace
  /-- The exit code; none as long as it runs. -/
  exit : Option Nat
deriving DecidableEq

/-- A log record of the simulator itself. -/
def simulatorRecord (severity : Severity) (text : String) : Event :=
  .log { severity, source := .simulator, text }

/-- The last log record of a bounded run. -/
def RunReport.closing (report : RunReport) : Event :=
  if report.restartRequested then
    simulatorRecord .info s!"Device restart requested after {report.steps} steps"
  else
    simulatorRecord .info s!"Stopped after {report.steps} steps"

/-- The exit code of a process that is aborted. -/
def abortedExit : Nat := 101

/-- The runner of a process: its hooks exit. -/
def processRunner {δ : Type} (device : δ) : Runner δ := { device, system := .process }

section

variable {δ : Type} [Driver δ]

/-- A process that takes at most `limit` steps. -/
def boundedProcess (limit : Nat) (device : δ) : ProcessRun :=
  let run := (processRunner device).runFor limit
  match run.outcome with
  | .done report => ⟨run.trace ++ [report.closing], some 0⟩
  | .failed e => ⟨run.trace ++ [simulatorRecord .error e.message], some 1⟩
  | .aborted _ => ⟨run.trace, some abortedExit⟩

/-- The exit code that a departure comes to. -/
def Departure.exit? : Departure → Option Nat
  | .left _ (.exited code) => some code
  | _ => none

/-- A process that runs until it leaves through a hook, observed up to some delay calls. -/
def endlessProcess (budget : Nat) (device : δ) : ProcessRun :=
  let run := (processRunner device).run budget
  match run.outcome with
  | .done departure => ⟨run.trace, departure.exit?⟩
  | .failed e => nomatch e
  | .aborted _ => ⟨run.trace, some abortedExit⟩

/-- A process with or without a limit of steps. -/
def deviceProcess (budget : Nat) (steps : Option Nat) (device : δ) : ProcessRun :=
  match steps with
  | some limit => boundedProcess limit device
  | none => endlessProcess budget device

end

/-! ## The demos -/

/-- The pin that the LED of the simulator is on. -/
def simulatorPin : LoggedPin := { label := "GPIO2" }

/-- The blinking LED of the simulator. -/
def simulatedBlink (style : BlinkStyle) : Blink LoggedPin := { pin := simulatorPin, style }

/-- The scanning radio of the simulator. -/
def simulatedScan (streams : Streams) : WifiScan DriftingRadio OutputStream :=
  { radio := {}, console := { full := streams.outFull } }

/-- The pixel of the simulator. -/
def simulatedCycle (streams : Streams) :
    RgbCycle (FrameBuffer TerminalPixels) DesktopBoard OutputStream :=
  { strip := .dark 1 { full := streams.errFull }, memory := {},
    console := { full := streams.outFull } }

/-- The greeting of the simulator. -/
def simulatedHello (streams : Streams) : HelloWorld DesktopBoard OutputStream :=
  { board := {}, console := { full := streams.outFull } }

/-- The process of a demo without its first log record. -/
def demoProcess (streams : Streams) (budget : Nat) (arguments : Arguments) : ProcessRun :=
  match arguments.demo with
  | .blink => deviceProcess budget arguments.steps (simulatedBlink .onOff)
  | .blinkToggle => deviceProcess budget arguments.steps (simulatedBlink .toggle)
  | .wifiScan => deviceProcess budget arguments.steps (simulatedScan streams)
  | .rgbCycle => deviceProcess budget arguments.steps (simulatedCycle streams)
  | .helloWorld => deviceProcess budget arguments.steps (simulatedHello streams)

/-- The first log record of a process. -/
def openingRecord (demo : Demo) : Event := simulatorRecord .info s!"Simulating {demo.name}"

/-- The process of a demo, observed up to some delay calls. -/
def simulate (streams : Streams) (budget : Nat) (arguments : Arguments) : ProcessRun :=
  let run := demoProcess streams budget arguments
  { run with trace := openingRecord arguments.demo :: run.trace }

/-! ## What it prints -/

/-- The name and version of the simulator. -/
def versionText : String := "pacer-simulator 0.1.0\n"

/-- What an event prints on the standard output. -/
def Event.outText : Event → String
  | .console text => text
  | _ => ""

/-- What an event prints on the standard error. -/
def Event.errText (filter : LogFilter) (stamp : String) : Event → String
  | .log record => if filter.passes stamp record then record.line stamp ++ "\n" else ""
  | .frame pixels false => TerminalPixels.paint pixels
  | _ => ""

/-- What a process prints on the standard output. -/
def outText (streams : Streams) (trace : Trace) : String :=
  if streams.outFull then "" else String.join (trace.map Event.outText)

/-- What a process prints on the standard error. -/
def errText (streams : Streams) (filter : LogFilter) (stamp : String) (trace : Trace) : String :=
  if streams.errFull then "" else String.join (trace.map (Event.errText filter stamp))

/-! ## Calls -/

/-- How the simulator is called. -/
def usage : String :=
  let demos := " | ".intercalate (Demo.all.map Demo.argument)
  s!"Usage: pacer-simulator [--steps N] [--fast] DEMO\nDEMO is one of {demos}\n"

/-- What a call of the simulator comes to. -/
structure CallResult where
  /-- The exit code; none as long as it runs. -/
  exit : Option Nat
  /-- What is printed on the standard output. -/
  out : String := ""
  /-- What is printed on the standard error. -/
  err : String := ""
deriving DecidableEq

/-- What an invocation comes to, without complaints about the filter. -/
def resultOf (streams : Streams) (budget : Nat) (filter : LogFilter) (stamp : String) :
    Invocation → CallResult
  | .misuse => { exit := some 2, err := usage }
  | .help => { exit := some 0, out := usage }
  | .version => { exit := some 0, out := versionText }
  | .simulate arguments =>
    let run := simulate streams budget arguments
    { exit := run.exit, out := outText streams run.trace,
      err := errText streams filter stamp run.trace }

/-- What a call with a log filter and some arguments comes to. Complaints about the filter come
first, and the process is aborted where they cannot be printed. -/
def callSimulator (streams : Streams) (budget : Nat) (filter : Option String) (stamp : String)
    (args : List String) : CallResult :=
  let reading := LogFilter.ofString? filter
  if streams.errFull ∧ reading.complaints ≠ [] then { exit := some abortedExit }
  else
    let result := resultOf streams budget reading.filter stamp (.ofArguments args)
    { result with
      out := if streams.outFull then "" else result.out
      err := if streams.errFull then "" else reading.warnings ++ result.err }

end Metronome
