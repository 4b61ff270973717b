import Metronome.Proofs.Runner.History

/-!
# One setup, before every step

Over any bounded runs, one after the other, the runner calls the driver in one order only: setups
until the first one that succeeds, and from then on steps. Whether the setup is done is all that the
runner has to know of its history for that; `Orderly` follows that one bit through the calls.
-/

namespace Metronome

/-- The calls that may be made while the setup is pending (`false`) or done (`true`), together with
what it is after them. -/
inductive Orderly : Bool → List DriverCall → Bool → Prop where
  | nil (ready : Bool) : Orderly ready [] ready
  /-- Steps are taken when the setup is done, which they do not undo. -/
  | step {outcome : Outcome DriverError Step} {cadence : Cadence} {calls : List DriverCall}
      {after : Bool} (rest : Orderly true calls after) :
      Orderly true (.step outcome cadence :: calls) after
  /-- A pending setup is done by a setup that succeeds. -/
  | ready {calls : List DriverCall} {after : Bool} (rest : Orderly true calls after) :
      Orderly false (.setUp (.done ()) :: calls) after
  /-- A pending setup stays pending after one that does not. -/
  | pending {outcome : Outcome DriverError Unit} {calls : List DriverCall} {after : Bool}
      (h : outcome ≠ .done ()) (rest : Orderly false calls after) :
      Orderly false (.setUp outcome :: calls) after

namespace Orderly

variable {before between after : Bool} {first second : List DriverCall}

theorem append (h : Orderly before first between) (h' : Orderly between second after) :
    Orderly before (first ++ second) after := by
  induction h with
  | nil ready => exact h'
  | step rest ih => exact .step (ih h')
  | ready rest ih => exact .ready (ih h')
  | pending hne rest ih => exact .pending hne (ih h')

/-- The calls may be cut anywhere: the first of them tells which rule they begin with, and with it
what comes before the others. -/
theorem cut (h : Orderly before (first ++ second) after) :
    ∃ between, Orderly before first between ∧ Orderly between second after := by
  induction first generalizing before with
  | nil => exact ⟨before, .nil before, h⟩
  | cons call first ih =>
    cases h with
    | step rest =>
      obtain ⟨between, hfirst, hsecond⟩ := ih rest
      exact ⟨between, .step hfirst, hsecond⟩
    | ready rest =>
      obtain ⟨between, hfirst, hsecond⟩ := ih rest
      exact ⟨between, .ready hfirst, hsecond⟩
    | pending hne rest =>
      obtain ⟨between, hfirst, hsecond⟩ := ih rest
      exact ⟨between, .pending hne hfirst, hsecond⟩

/-- The setup is done exactly when it was done before or one of the calls has done it. -/
theorem ready_iff (h : Orderly before first after) :
    after = true ↔ before = true ∨ .setUp (.done ()) ∈ first := by
  induction h with
  | nil ready => simp
  | step rest ih => simp [ih]
  | ready rest ih => simp [ih]
  | pending hne rest ih => simp [ih, Ne.symm hne]

/-- Before a step the setup has been done. -/
theorem ready_of_step {outcome : Outcome DriverError Step} {cadence : Cadence}
    (h : Orderly false (first ++ .step outcome cadence :: second) after) :
    .setUp (.done ()) ∈ first := by
  obtain ⟨between, hfirst, hsecond⟩ := h.cut
  cases hsecond
  rcases hfirst.ready_iff.mp rfl with hbefore | hmem
  · cases hbefore
  · exact hmem

/-- Before a setup none has succeeded. -/
theorem pending_of_setUp {outcome : Outcome DriverError Unit}
    (h : Orderly before (first ++ .setUp outcome :: second) after) :
    .setUp (.done ()) ∉ first := by
  obtain ⟨between, hfirst, hsecond⟩ := h.cut
  intro hmem
  have hbetween : between = true := hfirst.ready_iff.mpr (Or.inr hmem)
  rw [hbetween] at hsecond
  cases hsecond

end Orderly

namespace Runner

variable {δ : Type} [Driver δ]

/-! ## The calls of a runner are orderly -/

theorem orderly_stepCalls (limit : Nat) (r : Runner δ) : Orderly true (stepCalls limit r) true := by
  induction limit, r using round_induction with
  | zero r => exact .nil true
  | next limit r h ih => rw [stepCalls_of_goesOn h]; exact .step ih
  | cut limit r h => rw [stepCalls_of_cut h]; exact .step (.nil true)
  | restart limit r h => rw [stepCalls_of_last h nofun]; exact .step (.nil true)
  | failed limit r cause h => rw [stepCalls_of_last h nofun]; exact .step (.nil true)
  | aborted limit r abort h => rw [stepCalls_of_last h nofun]; exact .step (.nil true)

theorem orderly_setUpCalls (r : Runner δ) :
    Orderly r.ready r.setUpCalls r.ensureReady.state.ready := by
  cases hr : r.ready with
  | true =>
    rw [ensureReady_of_ready hr, setUpCalls_of_ready hr, hr]
    exact .nil true
  | false =>
    rw [ensureReady_of_pending hr, setUpCalls_of_pending hr, setUpCall]
    cases r.prepared.outcome with
    | done value => exact .ready (.nil true)
    | failed cause =>
      have hattempted : r.attempted.ready = false := hr
      rw [hattempted]
      exact .pending nofun (.nil false)
    | aborted abort =>
      have hattempted : r.attempted.ready = false := hr
      rw [hattempted]
      exact .pending nofun (.nil false)

theorem orderly_calls (limit : Nat) (r : Runner δ) :
    Orderly r.ready (r.calls limit) (r.runFor limit).state.ready := by
  have hsetUp := orderly_setUpCalls r
  by_cases h : r.ensureReady.outcome = .done ()
  · have hready := ready_of_ensureReady h
    have hrun : (r.runFor limit).state.ready = true := by
      rw [runFor_of_done h]
      exact (ready_runSteps ..).trans hready
    rw [hready] at hsetUp
    rw [calls_of_done h, hrun]
    exact hsetUp.append (orderly_stepCalls ..)
  · rw [calls_of_not_done h, state_runFor_of_not_done h]
    exact hsetUp

/-- The calls of bounded runs one after the other are in order. -/
theorem orderly_history (limits : List Nat) (r : Runner δ) :
    Orderly r.ready (r.history limits) (r.runEach limits).ready := by
  induction limits generalizing r with
  | nil => rw [history_nil]; exact .nil r.ready
  | cons limit limits ih =>
    rw [history_cons]
    exact (orderly_calls limit r).append (ih (r.runFor limit).state)

/-! ## A pending setup -/

section Pending

variable {r : Runner δ} (hr : r.ready = false)
include hr

/-- A bounded run does a pending setup first, whatever its limit. -/
theorem calls_of_pending (limit : Nat) :
    ∃ later, r.calls limit = r.setUpCall :: later := by
  have hsetUp := setUpCalls_of_pending hr
  by_cases h : r.ensureReady.outcome = .done ()
  · refine ⟨stepCalls limit r.ensureReady.state, ?_⟩
    rw [calls_of_done h, hsetUp]
    rfl
  · exact ⟨[], by rw [calls_of_not_done h, hsetUp]⟩

theorem ready_of_prepared (h : r.prepared.outcome = .done ()) (limit : Nat) :
    (r.runFor limit).state.ready = true := by
  have hs := ensureReady_of_pending hr
  rw [h] at hs
  have hdone : r.ensureReady.outcome = .done () := by rw [hs]
  rw [runFor_of_done hdone]
  exact (ready_runSteps ..).trans (ready_of_ensureReady hdone)

/-- A setup that fails is the only call of its run. -/
theorem calls_of_unprepared {cause : DriverError} (h : r.prepared.outcome = .failed cause)
    (limit : Nat) : r.calls limit = [.setUp (.failed cause)] := by
  have hs := ensureReady_of_pending hr
  rw [h] at hs
  have hnot : r.ensureReady.outcome ≠ .done () := by rw [hs]; nofun
  rw [calls_of_not_done hnot, setUpCalls_of_pending hr, setUpCall, h]

end Pending

/-- In the history of a fresh runner, whatever its bounded runs came to, every step comes after a
setup that succeeded and no setup does; the setup counts as done exactly when one has succeeded.
While it is pending, every bounded run begins with a setup, also one of no steps, and the setup is
done if that succeeds. If it fails, the run fails with the same cause, makes no other call of the
driver, sleeps not at all and leaves the count of steps. -/
theorem setUp_once_before_steps (r : Runner δ) (hfresh : r.Fresh) (limits : List Nat) :
    let reached := r.runEach limits
    let calls := r.history limits
    (∀ earlier outcome cadence later, calls = earlier ++ .step outcome cadence :: later →
      .setUp (.done ()) ∈ earlier) ∧
    (∀ earlier outcome later, calls = earlier ++ .setUp outcome :: later →
      .setUp (.done ()) ∉ earlier) ∧
    (reached.ready = true ↔ .setUp (.done ()) ∈ calls) ∧
    (reached.ready = false → ∀ limit,
      let prepared : Effect δ DriverError Unit := Driver.setUp reached.clock.now reached.device
      let run := reached.runFor limit
      (∃ later, reached.calls limit = .setUp prepared.outcome :: later) ∧
      (prepared.outcome = .done () → run.state.ready = true) ∧
      (∀ cause, prepared.outcome = .failed cause →
        run.outcome = .failed (.setUp reached.name cause) ∧
        reached.calls limit = [.setUp (.failed cause)] ∧
        run.state.steps = reached.steps ∧ run.state.clock = reached.clock ∧
        run.trace = record .info s!"{reached.name}: setup" :: prepared.trace)) := by
  intro reached calls
  have horderly : Orderly r.ready calls reached.ready := orderly_history limits r
  rw [hfresh.pending] at horderly
  refine ⟨?_, ?_, ?_, ?_⟩
  · intro earlier outcome cadence later hcalls
    rw [hcalls] at horderly
    exact horderly.ready_of_step
  · intro earlier outcome later hcalls
    rw [hcalls] at horderly
    exact horderly.pending_of_setUp
  · rw [horderly.ready_iff]
    exact or_iff_right Bool.false_ne_true
  · intro hpending limit prepared run
    refine ⟨calls_of_pending hpending limit, fun h => ready_of_prepared hpending h limit, ?_⟩
    intro cause hcause
    have hrun : run = _ := runFor_of_unprepared hpending hcause limit
    rw [hrun]
    exact ⟨rfl, calls_of_unprepared hpending hcause limit, rfl, rfl, rfl⟩

/-- Behind a setup that failed, a run of no steps does the setup. -/
theorem probe_sets_up :
    let reached := probe.runEach [3]
    probe.Fresh ∧ reached.ready = false ∧ (reached.runFor 0).state.ready = true ∧
      (∃ later, reached.calls 0 = .setUp (.done ()) :: later) ∧
      .setUp (.done ()) ∉ probe.history [3] := by
  intro reached
  have hready : reached.ready = false := rfl
  obtain ⟨-, -, hiff, hpending⟩ := setUp_once_before_steps probe fresh_probe [3]
  obtain ⟨hcalls, hdone, -⟩ := hpending hready 0
  refine ⟨fresh_probe, hready, hdone rfl, hcalls, fun hmem => ?_⟩
  exact Bool.false_ne_true (hready.symm.trans (hiff.mpr hmem))

end Runner

end Metronome
