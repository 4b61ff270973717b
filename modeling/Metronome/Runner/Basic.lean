import Metronome.Driver
import Metronome.SystemControl
import Metronome.Runner.Clock

/-!
# The runner

One setup, then step and sleep. The runner is the only place that sleeps and the only place that
decides what a failure comes to. `Runner.runFor` takes a bounded number of steps and reports;
`Metronome.Runner.Endless` holds the loop that leaves only through a hook.
-/

namespace Metronome

/-- What the runner does when a driver fails. -/
inductive FatalAction where
  | restart
  | halt
deriving DecidableEq

/-- The action when none is chosen. -/
def FatalAction.standard : FatalAction := .restart

/-- The name of an action. -/
def FatalAction.name : FatalAction → String
  | .restart => "Restart"
  | .halt => "Halt"

/-- A driver's failure as the runner sees it. -/
inductive RunError where
  /-- The setup failed. -/
  | setUp (driver : String) (cause : DriverError)
  /-- A step failed; `index` is the number of steps before it. -/
  | step (driver : String) (index : UInt32) (cause : DriverError)
deriving DecidableEq

/-- The text of a runner's error. -/
def RunError.message : RunError → String
  | .setUp driver cause => s!"{driver} setup failed: {cause.message}"
  | .step driver index cause => s!"{driver} step {index.toNat} failed: {cause.message}"

/-- The summary of a bounded run. -/
structure RunReport where
  /-- Steps completed in this run. -/
  steps : Nat
  /-- Whether the last one asked for a reset. -/
  restartRequested : Bool
deriving DecidableEq

/-- The report of a run that took one step before the reported ones. -/
def RunReport.afterStep (r : RunReport) : RunReport := { r with steps := r.steps + 1 }

/-- A driver, its clock and its way out. -/
structure Runner (δ : Type) where
  /-- The driver and its peripherals. -/
  device : δ
  /-- The way out. -/
  system : SystemControl
  /-- What a failure comes to. -/
  onFatal : FatalAction := .standard
  /-- Whether the setup has succeeded. -/
  ready : Bool := false
  /-- All steps completed, counted in a 32-bit word that wraps. -/
  steps : UInt32 := 0
  /-- The time slept. -/
  clock : Clock := {}

namespace Runner

variable {δ ε α : Type}

/-- Runs an action of the driver at the runner's instant. -/
def perform (r : Runner δ) (x : Act δ ε α) : Effect (Runner δ) ε α :=
  let inner := x r.clock.now r.device
  ⟨inner.outcome, { r with device := inner.state }, inner.trace⟩

/-- A log record of the runner. -/
def record (severity : Severity) (text : String) : Event :=
  .log { severity, source := .runner, text }

/-- Makes some delay calls. -/
def sleep (r : Runner δ) (calls : List DelayCall) : Effect (Runner δ) Empty Unit :=
  let slept := r.clock.sleepAll calls
  ⟨slept.outcome, { r with clock := slept.state }, slept.trace⟩

variable [Driver δ]

/-- The driver's name at this moment. -/
def name (r : Runner δ) : String := Driver.name r.device

/-- The delay calls of the driver's cadence at this moment. -/
def pace (r : Runner δ) : List DelayCall := (Driver.cadence r.device).delays

/-- Sets the driver up unless that has been done. -/
def ensureReady (r : Runner δ) : Effect (Runner δ) RunError Unit :=
  if r.ready then
    ⟨.done (), r, []⟩
  else
    let name := r.name
    let opening := record .info s!"{name}: setup"
    let setup := r.perform Driver.setUp
    match setup.outcome with
    | .done () =>
      let cadence := (Driver.cadence setup.state.device).display
      let closing := record .info s!"{name}: ready, stepping every {cadence}"
      ⟨.done (), { setup.state with ready := true }, opening :: setup.trace ++ [closing]⟩
    | .failed cause => ⟨.failed (.setUp name cause), setup.state, opening :: setup.trace⟩
    | .aborted abort => ⟨.aborted abort, setup.state, opening :: setup.trace⟩

/-- Takes one step and counts it if it succeeds. Errors carry the given name. -/
def stepOnce (name : String) (r : Runner δ) : Effect (Runner δ) RunError Step :=
  let taken := r.perform Driver.step
  match taken.outcome with
  | .done step => ⟨.done step, { taken.state with steps := r.steps + 1 }, taken.trace⟩
  | .failed cause => ⟨.failed (.step name r.steps cause), taken.state, taken.trace⟩
  | .aborted abort => ⟨.aborted abort, taken.state, taken.trace⟩

/-- Takes one step and, if it goes on, sleeps for one cadence. Errors carry the given name. -/
def stride (name : String) (r : Runner δ) : Effect (Runner δ) RunError Step :=
  let taken := r.stepOnce name
  match taken.outcome with
  | .done .next =>
    let slept := taken.state.sleep taken.state.pace
    match slept.outcome with
    | .done () => ⟨.done .next, slept.state, taken.trace ++ slept.trace⟩
    | .failed e => nomatch e
    | .aborted abort => ⟨.aborted abort, slept.state, taken.trace ++ slept.trace⟩
  | _ => taken

/-- Takes at most `limit` steps, each that goes on followed by one cadence of sleep. -/
def runSteps (name : String) : Nat → Runner δ → Effect (Runner δ) RunError RunReport
  | 0, r => ⟨.done ⟨0, false⟩, r, []⟩
  | limit + 1, r =>
    let taken := r.stride name
    match taken.outcome with
    | .done .restart => ⟨.done ⟨1, true⟩, taken.state, taken.trace⟩
    | .done .next =>
      let rest := runSteps name limit taken.state
      match rest.outcome with
      | .done report => ⟨.done report.afterStep, rest.state, taken.trace ++ rest.trace⟩
      | .failed e => ⟨.failed e, rest.state, taken.trace ++ rest.trace⟩
      | .aborted abort => ⟨.aborted abort, rest.state, taken.trace ++ rest.trace⟩
    | .failed e => ⟨.failed e, taken.state, taken.trace⟩
    | .aborted abort => ⟨.aborted abort, taken.state, taken.trace⟩

/-- Sets the driver up if that has not been done, then takes at most `limit` steps. Ends early when
a step asks for a reset. -/
def runFor (limit : Nat) (r : Runner δ) : Effect (Runner δ) RunError RunReport :=
  let setup := r.ensureReady
  match setup.outcome with
  | .done () =>
    let run := runSteps setup.state.name limit setup.state
    ⟨run.outcome, run.state, setup.trace ++ run.trace⟩
  | .failed e => ⟨.failed e, setup.state, setup.trace⟩
  | .aborted abort => ⟨.aborted abort, setup.state, setup.trace⟩

end Runner

end Metronome
