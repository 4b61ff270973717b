import Metronome.Runner.Basic

/-!
# The endless run

`Runner.run` steps for ever and leaves only through a hook of the system: `restart` when a step asks
for a reset, and the hook that `onFatal` chooses when the setup or a step fails. To be observable,
a run is given a budget of delay calls and is left asleep when it attempts one more.
-/

namespace Metronome

/-- How far an endless run got. -/
inductive Departure where
  /-- It left through a hook. -/
  | left (hook : Hook) (fate : Fate)
  /-- It attempted a delay call beyond its budget. -/
  | asleep
deriving DecidableEq

/-- The hook for a failure. -/
def FatalAction.hook : FatalAction → Hook
  | .restart => .restart
  | .halt => .halt

/-- The word for a failure's hook in the last log record. -/
def FatalAction.gerund : FatalAction → String
  | .restart => "restarting"
  | .halt => "halting"

namespace Runner

variable {δ : Type} [Driver δ]

/-- Leaves through a hook after some last events. -/
def leave (r : Runner δ) (hook : Hook) (last : Trace) : Effect (Runner δ) Empty Departure :=
  let call := r.system.call hook
  ⟨.done (.left hook call.fate), r, last ++ call.trace⟩

/-- Leaves because a step asked for a reset. -/
def leaveToRestart (r : Runner δ) : Effect (Runner δ) Empty Departure :=
  r.leave .restart [record .info s!"{r.name}: restart requested"]

/-- Leaves because of an error. -/
def leaveOnError (r : Runner δ) (e : RunError) : Effect (Runner δ) Empty Departure :=
  let warning := s!"{r.name}: unrecoverable error, {r.onFatal.gerund}"
  r.leave r.onFatal.hook [record .error e.message, record .warn warning]

/-- Puts some events in front of what a run does. -/
def preceded (before : Trace) (e : Effect (Runner δ) Empty Departure) :
    Effect (Runner δ) Empty Departure :=
  { e with trace := before ++ e.trace }

/-- Steps until the driver leaves or the budget of delay calls is used up. Every step that goes on
makes a delay call, so `fuel` steps are enough for any budget below `fuel`. -/
def stepsWithin (name : String) : (fuel budget : Nat) → Runner δ → Effect (Runner δ) Empty Departure
  | 0, _, r => ⟨.done .asleep, r, []⟩
  | fuel + 1, budget, r =>
    let taken := r.stepOnce name
    match taken.outcome with
    | .done .restart => preceded taken.trace taken.state.leaveToRestart
    | .done .next =>
      let calls := taken.state.pace
      let slept := taken.state.sleep (calls.take budget)
      match slept.outcome with
      | .done () =>
        if calls.length ≤ budget then
          preceded (taken.trace ++ slept.trace)
            (stepsWithin name fuel (budget - calls.length) slept.state)
        else ⟨.done .asleep, slept.state, taken.trace ++ slept.trace⟩
      | .failed e => nomatch e
      | .aborted abort => ⟨.aborted abort, slept.state, taken.trace ++ slept.trace⟩
    | .failed e => preceded taken.trace (taken.state.leaveOnError e)
    | .aborted abort => ⟨.aborted abort, taken.state, taken.trace⟩

/-- Runs the driver for ever, observed up to a budget of delay calls. -/
def run (budget : Nat) (r : Runner δ) : Effect (Runner δ) Empty Departure :=
  let setup := r.ensureReady
  match setup.outcome with
  | .done () => preceded setup.trace (stepsWithin setup.state.name (budget + 1) budget setup.state)
  | .failed e => preceded setup.trace (setup.state.leaveOnError e)
  | .aborted abort => ⟨.aborted abort, setup.state, setup.trace⟩

end Runner

end Metronome
