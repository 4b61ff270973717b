import Metronome.Demo.Scripted
import Metronome.Proofs.Runner.Rounds

/-!
# The history of a runner

A watched driver is the same driver with a list of its calls beside it: each setup and each step
with what it came to. A runner cannot tell a watched driver from the driver itself
(`runFor_watched`, `runEach_watched`), so the list it leaves is the history of the runner: the calls
of one bounded run (`Runner.calls`) or of several, one after the other (`Runner.history`).
-/

namespace Metronome

/-- A call of a driver and what it came to. -/
inductive DriverCall where
  | setUp (outcome : Outcome DriverError Unit)
  /-- A step, with the driver's cadence right after it. -/
  | step (outcome : Outcome DriverError Step) (cadence : Cadence)
deriving DecidableEq

/-- A driver with the list of its calls. -/
structure Watched (δ : Type) where
  /-- The driver. -/
  device : δ
  /-- The calls so far, the first one first. -/
  calls : List DriverCall

namespace Watched

variable {δ : Type} [Driver δ]

/-- Sets the driver up and writes that down. -/
def setUp : Act (Watched δ) DriverError Unit := fun now w =>
  let inner := Driver.setUp now w.device
  ⟨inner.outcome, ⟨inner.state, w.calls ++ [.setUp inner.outcome]⟩, inner.trace⟩

/-- Takes a step of the driver and writes that down. -/
def step : Act (Watched δ) DriverError Step := fun now w =>
  let inner := Driver.step now w.device
  ⟨inner.outcome, ⟨inner.state, w.calls ++ [.step inner.outcome (Driver.cadence inner.state)]⟩,
    inner.trace⟩

instance : Driver (Watched δ) where
  name w := Driver.name w.device
  cadence w := Driver.cadence w.device
  setUp
  step

end Watched

namespace Runner

section Definitions

variable {δ : Type}

/-- The runner with its driver watched, after some calls. -/
def watched (r : Runner δ) (before : List DriverCall) : Runner (Watched δ) :=
  { r with device := ⟨r.device, before⟩ }

/-- What a run leaves, with the driver watched. -/
def watchedEffect {ε α : Type} (e : Effect (Runner δ) ε α) (calls : List DriverCall) :
    Effect (Runner (Watched δ)) ε α :=
  ⟨e.outcome, e.state.watched calls, e.trace⟩

/-- A runner that has not run yet. -/
structure Fresh (r : Runner δ) : Prop where
  /-- The setup is pending. -/
  pending : r.ready = false
  /-- No step has been counted. -/
  no_steps : r.steps = 0

variable [Driver δ]

/-- The runner after some bounded runs, one after the other, whatever each of them came to. -/
def runEach : List Nat → Runner δ → Runner δ
  | [], r => r
  | limit :: limits, r => runEach limits (r.runFor limit).state

/-- The calls of a bounded run. -/
def calls (limit : Nat) (r : Runner δ) : List DriverCall :=
  ((r.watched []).runFor limit).state.device.calls

/-- The calls of some bounded runs, one after the other. -/
def history (limits : List Nat) (r : Runner δ) : List DriverCall :=
  (runEach limits (r.watched [])).device.calls

/-- The call that sets the driver up. -/
def setUpCall (r : Runner δ) : DriverCall := .setUp r.prepared.outcome

/-- The call that sets the driver up, unless that has been done. -/
def setUpCalls (r : Runner δ) : List DriverCall := if r.ready then [] else [r.setUpCall]

/-- The call that takes a step. -/
def stepCall (r : Runner δ) : DriverCall := .step r.taken.outcome (Driver.cadence r.taken.state)

/-- The calls of some rounds. -/
def stepCalls : Nat → Runner δ → List DriverCall
  | 0, _ => []
  | limit + 1, r => r.stepCall :: if r.GoesOn then stepCalls limit r.rested else []

end Definitions

variable {δ : Type} [Driver δ]

/-! ## Calls and outcomes -/

theorem setUpCalls_of_ready {r : Runner δ} (h : r.ready = true) : r.setUpCalls = [] := by
  rw [setUpCalls, if_pos h]

theorem setUpCalls_of_pending {r : Runner δ} (h : r.ready = false) :
    r.setUpCalls = [r.setUpCall] := by
  rw [setUpCalls, if_neg (by rw [h]; exact Bool.false_ne_true)]

section StepCalls

variable {r : Runner δ} {outcome : Outcome DriverError Step}

theorem stepCall_of_outcome (h : r.taken.outcome = outcome) :
    r.stepCall = .step outcome (Driver.cadence r.taken.state) := by
  rw [stepCall, h]

/-- A round that goes on is one call in front of those of the rounds behind it. -/
theorem stepCalls_of_goesOn (h : r.GoesOn) (limit : Nat) :
    stepCalls (limit + 1) r = r.stepCall :: stepCalls limit r.rested := by
  rw [stepCalls, if_pos h]

/-- A step behind which the program ends is the last call. -/
theorem stepCalls_of_cut (h : r.CutShort) (limit : Nat) :
    stepCalls (limit + 1) r = [r.stepCall] := by
  rw [stepCalls, if_neg fun hon : r.GoesOn => h.full hon.room]

/-- A step that does not go on is the last call. -/
theorem stepCalls_of_last (h : r.taken.outcome = outcome) (hlast : outcome ≠ .done .next)
    (limit : Nat) : stepCalls (limit + 1) r = [r.stepCall] := by
  rw [stepCalls, if_neg fun hon : r.GoesOn => hlast (h.symm.trans hon.next)]

end StepCalls

/-! ## A watched driver behaves like the driver -/

theorem moved_watched (r : Runner δ) (before : List DriverCall) :
    (r.watched before).moved = r.moved.watched (before ++ [r.stepCall]) := rfl

theorem counted_watched (r : Runner δ) (before : List DriverCall) :
    (r.watched before).counted = r.counted.watched (before ++ [r.stepCall]) := rfl

theorem rested_watched (r : Runner δ) (before : List DriverCall) :
    (r.watched before).rested = r.rested.watched (before ++ [r.stepCall]) := rfl

/-- A round goes on with a watched driver if it does with the driver. -/
theorem goesOn_watched {r : Runner δ} (h : r.GoesOn) (before : List DriverCall) :
    (r.watched before).GoesOn := ⟨h.next, h.room⟩

theorem cutShort_watched {r : Runner δ} (h : r.CutShort) (before : List DriverCall) :
    (r.watched before).CutShort := ⟨h.next, h.full⟩

/-- Rounds leave the same with a watched driver, which notes one step for each of them. What is
noted in one round stands in front of the rest, so this has to hold behind any calls. -/
theorem runSteps_watched (name : String) (limit : Nat) (r : Runner δ) (before : List DriverCall) :
    runSteps name limit (r.watched before) =
      watchedEffect (runSteps name limit r) (before ++ stepCalls limit r) := by
  induction limit, r using round_induction generalizing before with
  | zero r => rw [stepCalls, List.append_nil]; rfl
  | next limit r h ih =>
    rw [runSteps_of_goesOn h, runSteps_of_goesOn (goesOn_watched h before), rested_watched, ih,
      stepCalls_of_goesOn h, List.append_assoc]
    rfl
  | cut limit r h =>
    rw [runSteps_of_cut h, runSteps_of_cut (cutShort_watched h before), rested_watched,
      stepCalls_of_cut h]
    rfl
  | restart limit r h =>
    have hw : (r.watched before).taken.outcome = .done .restart := h
    rw [runSteps_of_restart h, runSteps_of_restart hw, counted_watched,
      stepCalls_of_last h nofun]
    rfl
  | failed limit r cause h =>
    have hw : (r.watched before).taken.outcome = .failed cause := h
    rw [runSteps_of_failed h, runSteps_of_failed hw, moved_watched,
      stepCalls_of_last h nofun]
    rfl
  | aborted limit r abort h =>
    have hw : (r.watched before).taken.outcome = .aborted abort := h
    rw [runSteps_of_aborted h, runSteps_of_aborted hw, moved_watched,
      stepCalls_of_last h nofun]
    rfl

/-- A setup leaves the same with a watched driver, which notes it when it was pending. -/
theorem ensureReady_watched (r : Runner δ) (before : List DriverCall) :
    (r.watched before).ensureReady = watchedEffect r.ensureReady (before ++ r.setUpCalls) := by
  cases hr : r.ready with
  | true =>
    have hw : (r.watched before).ready = true := hr
    rw [ensureReady_of_ready hr, ensureReady_of_ready hw, setUpCalls_of_ready hr, List.append_nil]
    rfl
  | false =>
    have hw : (r.watched before).ready = false := hr
    have hp : (r.watched before).prepared.outcome = r.prepared.outcome := rfl
    rw [ensureReady_of_pending hr, ensureReady_of_pending hw, hp, setUpCalls_of_pending hr]
    cases r.prepared.outcome <;> rfl

/-- Behind a good setup, a run with a watched driver is the run with the driver, with its calls
noted. -/
theorem runFor_watched_of_done {r : Runner δ} (h : r.ensureReady.outcome = .done ())
    (limit : Nat) (before : List DriverCall) :
    (r.watched before).runFor limit = watchedEffect (r.runFor limit)
      (before ++ (r.setUpCalls ++ stepCalls limit r.ensureReady.state)) := by
  have he := ensureReady_watched r before
  have hw : (r.watched before).ensureReady.outcome = .done () := by rw [he]; exact h
  rw [runFor_of_done h, runFor_of_done hw, he, ← List.append_assoc]
  exact congrArg (behind 0 r.ensureReady.trace) (runSteps_watched ..)

/-- Without a good setup, a run with a watched driver notes that setup only. -/
theorem runFor_watched_of_not_done {r : Runner δ} (h : r.ensureReady.outcome ≠ .done ())
    (limit : Nat) (before : List DriverCall) :
    (r.watched before).runFor limit = watchedEffect (r.runFor limit) (before ++ r.setUpCalls) := by
  have he := ensureReady_watched r before
  have ho : (r.watched before).ensureReady.outcome = r.ensureReady.outcome := by rw [he]; rfl
  cases hs : r.ensureReady.outcome with
  | done value => exact absurd hs h
  | failed e => rw [runFor_of_failed hs, runFor_of_failed (ho.trans hs), he]; rfl
  | aborted abort => rw [runFor_of_aborted hs, runFor_of_aborted (ho.trans hs), he]; rfl

/-! ## The calls of bounded runs -/

/-- The calls of a run whose setup succeeds, or has before: the pending setup, then steps. -/
theorem calls_of_done {r : Runner δ} (h : r.ensureReady.outcome = .done ()) (limit : Nat) :
    r.calls limit = r.setUpCalls ++ stepCalls limit r.ensureReady.state := by
  rw [calls, runFor_watched_of_done h]
  rfl

/-- A run whose setup does not succeed makes no other call. -/
theorem calls_of_not_done {r : Runner δ} (h : r.ensureReady.outcome ≠ .done ()) (limit : Nat) :
    r.calls limit = r.setUpCalls := by
  rw [calls, runFor_watched_of_not_done h]
  rfl

/-- A bounded run leaves the same with a watched driver, which notes the calls of that run. -/
theorem runFor_watched (limit : Nat) (r : Runner δ) (before : List DriverCall) :
    (r.watched before).runFor limit =
      watchedEffect (r.runFor limit) (before ++ r.calls limit) := by
  by_cases h : r.ensureReady.outcome = .done ()
  · rw [runFor_watched_of_done h, calls_of_done h]
  · rw [runFor_watched_of_not_done h, calls_of_not_done h]

/-- Bounded runs, one after the other, leave the same with a watched driver. The runs behind the
first one are the same behind all calls so far and behind those of the first run only. -/
theorem runEach_watched (limits : List Nat) (r : Runner δ) (before : List DriverCall) :
    (r.watched before).runEach limits =
      (r.runEach limits).watched (before ++ r.history limits) := by
  induction limits generalizing r before with
  | nil => rw [history]; exact congrArg r.watched (List.append_nil before).symm
  | cons limit limits ih =>
    have hb := ih (r.runFor limit).state (before ++ r.calls limit)
    have hn := ih (r.runFor limit).state ([] ++ r.calls limit)
    simp only [history, runEach, runFor_watched, watchedEffect]
    rw [hb, hn, List.append_assoc]
    rfl

@[simp]
theorem history_nil (r : Runner δ) : r.history [] = [] := rfl

theorem history_cons (limit : Nat) (limits : List Nat) (r : Runner δ) :
    r.history (limit :: limits) = r.calls limit ++ (r.runFor limit).state.history limits := by
  simp only [history, runEach, runFor_watched, watchedEffect]
  rw [runEach_watched]
  rfl

/-- A fresh runner whose driver fails its first setup and its second step and asks for a reset with
its fourth one; the cadence changes with the first step. -/
def probe : Runner ScriptedDriver where
  device :=
    { name := "probe", cadence := ⟨500, by decide⟩, laterCadences := [⟨200, by decide⟩]
      setUps := [some .console], steps := [.next, .fail .console, .next, .restart] }
  system := .noting "probe"

theorem fresh_probe : probe.Fresh := ⟨rfl, rfl⟩

end Runner

end Metronome
