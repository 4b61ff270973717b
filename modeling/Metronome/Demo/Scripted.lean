import Metronome.Driver
import Metronome.Script

/-!
# Scripted drivers

A driver that replays planned outcomes at planned cadences and counts its calls.
-/

namespace Metronome

/-- The planned outcome of a step. -/
inductive StepPlan where
  | next
  | restart
  | fail (error : DriverError)
deriving DecidableEq

/-- A driver that replays planned outcomes; when they are used up, every call succeeds. -/
structure ScriptedDriver where
  name : String
  /-- The cadence before any step. -/
  cadence : Cadence
  /-- The cadences after the first, the second, … step; the last one stays. -/
  laterCadences : List Cadence := []
  setUps : Script DriverError := []
  steps : List StepPlan := []
  /-- Setups so far, failed ones included. -/
  setUpCalls : Nat := 0
  /-- Steps so far, failed ones included. -/
  stepCalls : Nat := 0

namespace ScriptedDriver

/-- The cadence after the steps so far. -/
def currentCadence (d : ScriptedDriver) : Cadence :=
  let all := d.cadence :: d.laterCadences
  all.getD (min d.stepCalls d.laterCadences.length) d.cadence

/-- Replays the next setup. -/
def setUp : Act ScriptedDriver DriverError Unit := do
  Act.emit .countedSetup
  Act.modify fun d => { d with setUpCalls := d.setUpCalls + 1 }
  Act.play setUps fun script d => { d with setUps := script }

/-- Replays the next step. -/
def step : Act ScriptedDriver DriverError Step := do
  let d ← Act.get
  Act.set { d with steps := d.steps.tail, stepCalls := d.stepCalls + 1 }
  match d.steps.head?.getD .next with
  | .next => pure .next
  | .restart => pure .restart
  | .fail e => Act.fail e

instance : Driver ScriptedDriver where
  name := ScriptedDriver.name
  cadence := currentCadence
  setUp
  step

end ScriptedDriver

end Metronome
