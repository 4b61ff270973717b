import Metronome.Runner.Endless

/-!
# Sessions

A session is a list of requests to one runner: bounded runs, an endless run, and calls to its driver
past the runner. Every request leaves an effect with an answer, so what a request did before it
failed is kept.
-/

namespace Metronome

/-- A request to a runner. -/
inductive Request (δ : Type) where
  /-- A bounded run. -/
  | runFor (limit : Nat)
  /-- An endless run, observed up to some delay calls. -/
  | run (budget : Nat)
  /-- The driver's setup, past the runner. -/
  | setUp
  /-- A step of the driver, past the runner. -/
  | step
  /-- The driver's name and cadence. -/
  | describe
  /-- The name of the way out. -/
  | nameSystem
  /-- A change of the driver's surroundings. -/
  | adjust (change : δ → δ)

/-- The answer to a request. -/
inductive Answer where
  | report (report : RunReport)
  | runFailed (error : RunError)
  | departed (departure : Departure)
  | done
  | stepped (step : Step)
  | failed (error : DriverError)
  | described (name cadence : String)
  | system (name : String)
  | adjusted
deriving DecidableEq

/-- The effect of an action with both of its endings turned into answers. -/
def Effect.answered {σ ε α : Type} (e : Effect σ ε α) (good : α → Answer) (bad : ε → Answer) :
    Effect σ Empty Answer :=
  match e.outcome with
  | .done a => ⟨.done (good a), e.state, e.trace⟩
  | .failed error => ⟨.done (bad error), e.state, e.trace⟩
  | .aborted abort => ⟨.aborted abort, e.state, e.trace⟩

/-- Does what a request asks for. -/
def Runner.serve {δ : Type} [Driver δ] (r : Runner δ) : Request δ → Effect (Runner δ) Empty Answer
  | .runFor limit => (r.runFor limit).answered .report .runFailed
  | .run budget => (r.run budget).answered .departed nofun
  | .setUp => (r.perform Driver.setUp).answered (fun () => .done) .failed
  | .step => (r.perform Driver.step).answered .stepped .failed
  | .describe => ⟨.done (.described r.name (Driver.cadence r.device).display), r, []⟩
  | .nameSystem => ⟨.done (.system r.system.name), r, []⟩
  | .adjust change => ⟨.done .adjusted, { r with device := change r.device }, []⟩

end Metronome
