import Metronome.Text.Decimal

/-!
# Command-line arguments

`DEMO [--steps N] [--fast]`, the options before or after the demo. Arguments are read from the left,
and the first that asks for the version or the help wins over all that follow it. `--` ends the
options.
-/

namespace Metronome

/-- A demo of the simulator. -/
inductive Demo where
  | blink
  | blinkToggle
  | wifiScan
  | rgbCycle
  | helloWorld
deriving DecidableEq

namespace Demo

/-- The name on the command line. -/
def argument : Demo → String
  | .blink => "blink"
  | .blinkToggle => "blink-toggle"
  | .wifiScan => "wifi-scan"
  | .rgbCycle => "rgb-cycle"
  | .helloWorld => "hello-world"

/-- The name that log records print. -/
def name : Demo → String
  | .blink => "Blink"
  | .blinkToggle => "BlinkToggle"
  | .wifiScan => "WifiScan"
  | .rgbCycle => "RgbCycle"
  | .helloWorld => "HelloWorld"

/-- All demos. -/
def all : List Demo := [.blink, .blinkToggle, .wifiScan, .rgbCycle, .helloWorld]

/-- The demo of a name. -/
def ofArgument? (s : String) : Option Demo := all.find? (·.argument = s)

end Demo

/-- What the simulator is asked to run. -/
structure Arguments where
  demo : Demo
  /-- The number of steps; endless if there is none. -/
  steps : Option Nat := none
  /-- Whether no time is slept. -/
  fast : Bool := false
deriving DecidableEq

/-- What the command line asks for. -/
inductive Invocation where
  | simulate (arguments : Arguments)
  | version
  | help
  /-- Arguments that make no sense. -/
  | misuse
deriving DecidableEq

/-! ## Numbers of steps -/

/-- The magnitude of a signed decimal number, and whether there is a minus sign. -/
def readSigned (cs : List Char) : Option (Bool × Nat) :=
  match cs with
  | '+' :: d :: ds => (false, ·) <$> readDigits 0 (d :: ds)
  | '-' :: d :: ds => (true, ·) <$> readDigits 0 (d :: ds)
  | d :: ds => (false, ·) <$> readDigits 0 (d :: ds)
  | [] => none

/-- The number of steps that an argument stands for: a decimal number below 2^32. A sign is allowed
where it changes nothing. -/
def readSteps (s : String) : Option Nat :=
  match readSigned s.toList with
  | some (negative, n) => if negative ∧ n ≠ 0 then none else some n
  | none => none

/-! ## Reading the arguments -/

/-- What has been read so far. -/
structure ArgumentState where
  demo : Option Demo := none
  steps : Option Nat := none
  fast : Bool := false
deriving DecidableEq

namespace ArgumentState

/-- The state with a demo, of which there is only one. -/
def takeDemo (st : ArgumentState) (arg : String) : Option ArgumentState :=
  match st.demo, Demo.ofArgument? arg with
  | none, some demo => some { st with demo }
  | _, _ => none

/-- The state with a number of steps, of which there is only one. -/
def takeSteps (st : ArgumentState) (arg : String) : Option ArgumentState :=
  match st.steps, readSteps arg with
  | none, some n => some { st with steps := some n }
  | _, _ => none

/-- The state with the option to sleep no time, which is given only once. -/
def takeFast (st : ArgumentState) : Option ArgumentState :=
  if st.fast then none else some { st with fast := true }

/-- The request that the arguments make up. -/
def finish (st : ArgumentState) : Invocation :=
  match st.demo with
  | some demo => .simulate { demo, steps := st.steps, fast := st.fast }
  | none => .misuse

end ArgumentState

/-- Reads what follows `--`. -/
def readPositional (st : ArgumentState) : List String → Invocation
  | [] => st.finish
  | arg :: args =>
    match st.takeDemo arg with
    | some st => readPositional st args
    | none => .misuse

/-- Reads arguments from the left. -/
def readArguments (st : ArgumentState) : List String → Invocation
  | [] => st.finish
  | "--" :: args => readPositional st args
  | "--version" :: _ => .version
  | "--help" :: _ => .help
  | "--fast" :: args =>
    match st.takeFast with
    | some st => readArguments st args
    | none => .misuse
  | "--steps" :: value :: args =>
    if value.startsWith "-" then .misuse
    else
      match st.takeSteps value with
      | some st => readArguments st args
      | none => .misuse
  | arg :: args =>
    if arg.startsWith "--steps=" then
      match st.takeSteps (arg.drop "--steps=".length).toString with
      | some st => readArguments st args
      | none => .misuse
    else if arg.startsWith "-V" then .version
    else if arg.startsWith "-h" then .help
    else
      match st.takeDemo arg with
      | some st => readArguments st args
      | none => .misuse

/-- What the arguments of the command line ask for. -/
def Invocation.ofArguments (args : List String) : Invocation := readArguments {} args

end Metronome
