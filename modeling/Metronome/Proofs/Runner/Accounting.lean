import Metronome.Proofs.Pacing
import Metronome.Proofs.Runner.History

/-!
# The accounts of a runner

Over any bounded runs, one after the other, the count of steps, the reports, the indices in errors
and the time slept follow from the calls of the driver: a step that succeeds is counted, a step that
goes on is followed by the cadence that the driver has right after it, and nothing else is counted
or takes time. The time is right for as long as the clock can count the delay calls; where it cannot
and its sums are checked, a run ends the program.
-/

namespace Metronome

/-! ## What the calls of a driver amount to -/

/-- Whether the call is a step that succeeded. -/
def DriverCall.completed : DriverCall → Bool
  | .step (.done _) _ => true
  | _ => false

/-- The delay calls that belong behind the call. -/
def DriverCall.delays : DriverCall → List DelayCall
  | .step (.done .next) cadence => cadence.delays
  | _ => []

/-- The microseconds slept behind the call. -/
def DriverCall.slept : DriverCall → Nat
  | .step (.done .next) cadence => cadence.micros.toNat
  | _ => 0

/-- The number of steps that succeeded. -/
def completedSteps (calls : List DriverCall) : Nat := calls.countP DriverCall.completed

/-- The number of delay calls that belong behind the steps that went on. -/
def delayCalls (calls : List DriverCall) : Nat := (calls.map (·.delays.length)).sum

/-- The cadences behind the steps that went on, added up. -/
def sleptMicros (calls : List DriverCall) : Nat := (calls.map DriverCall.slept).sum

@[simp]
theorem completedSteps_append (first second : List DriverCall) :
    completedSteps (first ++ second) = completedSteps first + completedSteps second :=
  List.countP_append

@[simp]
theorem delayCalls_append (first second : List DriverCall) :
    delayCalls (first ++ second) = delayCalls first + delayCalls second := by
  simp only [delayCalls, List.map_append, List.sum_append]

@[simp]
theorem sleptMicros_append (first second : List DriverCall) :
    sleptMicros (first ++ second) = sleptMicros first + sleptMicros second := by
  simp only [sleptMicros, List.map_append, List.sum_append]

namespace Runner

variable {δ : Type}

/-- Between `r` and `s` the calls have been counted, and slept for if the clock can count that
much. -/
structure Accounts (r s : Runner δ) (calls : List DriverCall) : Prop where
  /-- Every step that succeeded is counted. -/
  steps : s.steps = r.steps + UInt32.ofNat (completedSteps calls)
  /-- Every step that went on is slept for. -/
  time : r.clock.Allows (delayCalls calls) → s.clock.now = r.clock.now + sleptMicros calls
  /-- The delay calls have taken their room. -/
  room : r.clock.Allows (delayCalls calls) →
    ∀ n, s.clock.Allows n ↔ r.clock.Allows (delayCalls calls + n)

/-- No calls keep the accounts of a runner with itself. -/
theorem Accounts.refl (r : Runner δ) : Accounts r r [] where
  steps := (UInt32.add_zero _).symm
  time _ := rfl
  room _ n := by rw [show delayCalls [] = 0 from rfl, Nat.zero_add]

/-- Accounts may be kept in parts. -/
theorem Accounts.trans {r s t : Runner δ} {first second : List DriverCall}
    (h : Accounts r s first) (h' : Accounts s t second) : Accounts r t (first ++ second) := by
  have hparts : r.clock.Allows (delayCalls (first ++ second)) →
      r.clock.Allows (delayCalls first) ∧ s.clock.Allows (delayCalls second) := by
    intro hroom
    rw [delayCalls_append] at hroom
    have hfirst : r.clock.Allows (delayCalls first) := hroom.mono (Nat.le_add_right ..)
    exact ⟨hfirst, (h.room hfirst _).mpr hroom⟩
  refine ⟨?_, fun hroom => ?_, fun hroom n => ?_⟩
  · rw [h'.steps, h.steps, completedSteps_append, UInt32.ofNat_add, UInt32.add_assoc]
  · obtain ⟨hfirst, hsecond⟩ := hparts hroom
    rw [h'.time hsecond, h.time hfirst, sleptMicros_append, Nat.add_assoc]
  · obtain ⟨hfirst, hsecond⟩ := hparts hroom
    rw [h'.room hsecond, h.room hfirst, delayCalls_append, Nat.add_assoc]

/-- Where only the driver changes, a call that neither counts nor sleeps keeps the accounts. -/
theorem accounts_of_idle {r s : Runner δ} {call : DriverCall} (hsteps : s.steps = r.steps)
    (hclock : s.clock = r.clock) (hcounted : call.completed = false) (hslept : call.slept = 0)
    (hdelays : call.delays = []) : Accounts r s [call] := by
  have hnone : delayCalls [call] = 0 := by
    rw [delayCalls, List.map_singleton, List.sum_singleton, hdelays, List.length_nil]
  refine ⟨?_, fun _ => ?_, fun _ n => ?_⟩
  · rw [completedSteps, List.countP_singleton, hcounted, hsteps]
    exact (UInt32.add_zero _).symm
  · rw [sleptMicros, List.map_singleton, List.sum_singleton, hslept, hclock]
    rfl
  · rw [hclock, hnone, Nat.zero_add]

variable [Driver δ] {r : Runner δ}

/-! ## One call -/

/-- Behind a step that goes on belong the delay calls of the cadence right after it. -/
theorem delayCalls_stepCall (h : r.taken.outcome = .done .next) :
    delayCalls [r.stepCall] = r.counted.pace.length := by
  rw [stepCall_of_outcome h]
  exact Nat.add_zero _

/-- No delay call belongs behind a step that does not go on. -/
theorem delayCalls_of_last {outcome : Outcome DriverError Step} (h : r.taken.outcome = outcome)
    (hlast : outcome ≠ .done .next) : delayCalls [r.stepCall] = 0 := by
  rw [stepCall_of_outcome h]
  match outcome, hlast with
  | .done .restart, _ => rfl
  | .failed _, _ => rfl
  | .aborted _, _ => rfl

/-- A round that goes on takes as long as the cadence that the driver has right after its step. -/
theorem now_rested (h : r.GoesOn) :
    r.rested.clock.now = r.clock.now + (Driver.cadence r.taken.state).micros.toNat := by
  rw [rested, slept_of_allows h.room, ← Cadence.sum_duration_delays]
  exact Clock.now_afterAll ..

/-- A round with its delay is one step and what it slept. -/
theorem accounts_rested (h : r.GoesOn) : Accounts r r.rested [r.stepCall] := by
  refine ⟨?_, fun _ => ?_, fun _ n => ?_⟩
  · rw [stepCall_of_outcome h.next]
    rfl
  · rw [stepCall_of_outcome h.next]
    exact now_rested h
  · rw [delayCalls_stepCall h.next]
    exact allows_rested h n

/-- A round that the clock cuts short is counted; there was no room for its delay calls. -/
theorem accounts_cut (h : r.CutShort) : Accounts r r.rested [r.stepCall] := by
  have hfull : ¬ r.clock.Allows (delayCalls [r.stepCall]) := by
    rw [delayCalls_stepCall h.next]
    exact h.full
  refine ⟨?_, fun hroom => absurd hroom hfull, fun hroom => absurd hroom hfull⟩
  rw [stepCall_of_outcome h.next]
  rfl

theorem accounts_counted (h : r.taken.outcome = .done .restart) :
    Accounts r r.counted [r.stepCall] := by
  refine ⟨?_, fun _ => ?_, fun _ n => ?_⟩
  · rw [stepCall_of_outcome h]
    rfl
  · rw [stepCall_of_outcome h]
    rfl
  · rw [delayCalls_of_last h nofun, Nat.zero_add]
    rfl

/-- Setting up is neither counted nor slept for. -/
theorem accounts_ensureReady (r : Runner δ) : Accounts r r.ensureReady.state r.setUpCalls := by
  cases hr : r.ready with
  | true =>
    rw [ensureReady_of_ready hr, setUpCalls_of_ready hr]
    exact Accounts.refl r
  | false =>
    rw [ensureReady_of_pending hr, setUpCalls_of_pending hr]
    cases r.prepared.outcome with
    | done value => exact accounts_of_idle rfl rfl rfl rfl rfl
    | failed cause => exact accounts_of_idle rfl rfl rfl rfl rfl
    | aborted abort => exact accounts_of_idle rfl rfl rfl rfl rfl

/-! ## Whole runs -/

/-- The rounds of a run are accounted for by the calls to the driver. By induction on the rounds. -/
theorem accounts_runSteps (name : String) (limit : Nat) (r : Runner δ) :
    Accounts r (runSteps name limit r).state (stepCalls limit r) := by
  induction limit, r using round_induction with
  | zero r => exact Accounts.refl r
  | next limit r h ih =>
    rw [runSteps_of_goesOn h, stepCalls_of_goesOn h]
    exact (accounts_rested h).trans ih
  | cut limit r h =>
    rw [runSteps_of_cut h, stepCalls_of_cut h]
    exact accounts_cut h
  | restart limit r h =>
    rw [runSteps_of_restart h, stepCalls_of_last h nofun]
    exact accounts_counted h
  | failed limit r cause h =>
    rw [runSteps_of_failed h, stepCalls_of_last h nofun, stepCall_of_outcome h]
    exact accounts_of_idle rfl rfl rfl rfl rfl
  | aborted limit r abort h =>
    rw [runSteps_of_aborted h, stepCalls_of_last h nofun, stepCall_of_outcome h]
    exact accounts_of_idle rfl rfl rfl rfl rfl

theorem accounts_runFor (limit : Nat) (r : Runner δ) :
    Accounts r (r.runFor limit).state (r.calls limit) := by
  have hsetUp := accounts_ensureReady r
  by_cases h : r.ensureReady.outcome = .done ()
  · rw [runFor_of_done h, calls_of_done h]
    exact hsetUp.trans (accounts_runSteps ..)
  · rw [state_runFor_of_not_done h, calls_of_not_done h]
    exact hsetUp

/-- Bounded runs one after the other are accounted for by all their calls. -/
theorem accounts_runEach (limits : List Nat) (r : Runner δ) :
    Accounts r (r.runEach limits) (r.history limits) := by
  induction limits generalizing r with
  | nil => rw [history_nil]; exact Accounts.refl r
  | cons limit limits ih =>
    rw [history_cons]
    exact (accounts_runFor limit r).trans (ih (r.runFor limit).state)

/-! ## Clocks that are full -/

/-- Rounds that end with their first step make no delay call. -/
theorem delayCalls_stepCalls_of_last {outcome : Outcome DriverError Step}
    (h : r.taken.outcome = outcome) (hlast : outcome ≠ .done .next) (limit : Nat) :
    delayCalls (stepCalls (limit + 1) r) = 0 := by
  rw [stepCalls_of_last h hlast, delayCalls_of_last h hlast]

/-- Behind a round that goes on come the delay calls of the other rounds. -/
theorem delayCalls_of_goesOn (h : r.GoesOn) (limit : Nat) :
    delayCalls (stepCalls (limit + 1) r) =
      r.counted.pace.length + delayCalls (stepCalls limit r.rested) := by
  rw [stepCalls_of_goesOn h, ← delayCalls_stepCall h.next, ← delayCalls_append]
  rfl

/-- With more delay calls than the clock can count, rounds end the program. -/
theorem outcome_runSteps_of_full {name : String} {limit : Nat} {r : Runner δ}
    (h : ¬ r.clock.Allows (delayCalls (stepCalls limit r))) :
    (runSteps name limit r).outcome = .aborted .overflow := by
  induction limit, r using round_induction with
  | zero r => exact absurd r.clock.allows_zero h
  | next limit r ho ih =>
    have hrest : ¬ r.rested.clock.Allows (delayCalls (stepCalls limit r.rested)) := by
      rw [allows_rested ho, ← delayCalls_of_goesOn ho]
      exact h
    rw [runSteps_of_goesOn ho, behind, ih hrest]
    rfl
  | cut limit r ho => rw [runSteps_of_cut ho]
  | restart limit r ho =>
    rw [delayCalls_stepCalls_of_last ho (by simp)] at h
    exact absurd r.clock.allows_zero h
  | failed limit r cause ho =>
    rw [delayCalls_stepCalls_of_last ho (by simp)] at h
    exact absurd r.clock.allows_zero h
  | aborted limit r abort ho =>
    rw [delayCalls_stepCalls_of_last ho (by simp)] at h
    exact absurd r.clock.allows_zero h

/-- Setting up is followed by no delay call. -/
theorem delayCalls_setUpCalls (r : Runner δ) : delayCalls r.setUpCalls = 0 := by
  rw [setUpCalls]
  split <;> rfl

/-- A bounded run with more delay calls than the clock can count ends the program. -/
theorem outcome_runFor_of_full {limit : Nat} (h : ¬ r.clock.Allows (delayCalls (r.calls limit))) :
    (r.runFor limit).outcome = .aborted .overflow := by
  by_cases hs : r.ensureReady.outcome = .done ()
  · have hclock := (accounts_ensureReady r).room
    rw [delayCalls_setUpCalls] at hclock
    rw [calls_of_done hs, delayCalls_append, delayCalls_setUpCalls,
      ← hclock r.clock.allows_zero] at h
    rw [outcome_runFor_of_done hs]
    exact outcome_runSteps_of_full h
  · rw [calls_of_not_done hs, delayCalls_setUpCalls] at h
    exact absurd r.clock.allows_zero h

/-- Of bounded runs with more delay calls than the clock can count, one ends the program. -/
theorem exists_overflow_of_full {limits : List Nat} {r : Runner δ}
    (h : ¬ r.clock.Allows (delayCalls (r.history limits))) :
    ∃ first limit later, limits = first ++ limit :: later ∧
      ((r.runEach first).runFor limit).outcome = .aborted .overflow := by
  induction limits generalizing r with
  | nil => exact absurd r.clock.allows_zero h
  | cons limit limits ih =>
    by_cases hroom : r.clock.Allows (delayCalls (r.calls limit))
    · have hrest : ¬ (r.runFor limit).state.clock.Allows
          (delayCalls ((r.runFor limit).state.history limits)) := by
        rw [(accounts_runFor limit r).room hroom, ← delayCalls_append, ← history_cons]
        exact h
      obtain ⟨first, last, later, rfl, hended⟩ := ih hrest
      exact ⟨limit :: first, last, later, rfl, hended⟩
    · exact ⟨[], limit, limits, rfl, outcome_runFor_of_full hroom⟩

/-! ## Reports and errors -/

/-- A report counts the steps of its run that succeeded. -/
theorem steps_of_runSteps {name : String} {limit : Nat} {r : Runner δ} {report : RunReport}
    (h : (runSteps name limit r).outcome = .done report) :
    report.steps = completedSteps (stepCalls limit r) := by
  induction limit, r using round_induction generalizing report with
  | zero r => cases h; rfl
  | next limit r ho ih =>
    rw [runSteps_of_goesOn ho] at h
    obtain ⟨rest, hrest, rfl⟩ := Outcome.map_eq_done.mp h
    have hcall : completedSteps [r.stepCall] = 1 := by rw [stepCall_of_outcome ho.next]; rfl
    have hcalls := completedSteps_append [r.stepCall] (stepCalls limit r.rested)
    rw [hcall, ← ih hrest] at hcalls
    rw [stepCalls_of_goesOn ho]
    exact (Nat.add_comm ..).trans hcalls.symm
  | cut limit r ho => rw [runSteps_of_cut ho] at h; cases h
  | restart limit r ho =>
    rw [runSteps_of_restart ho] at h
    cases h
    rw [stepCalls_of_last ho nofun, stepCall_of_outcome ho]
    rfl
  | failed limit r cause ho => rw [runSteps_of_failed ho] at h; cases h
  | aborted limit r abort ho => rw [runSteps_of_aborted ho] at h; cases h

/-- An error of the rounds is that of their last step; it carries the count that the run leaves. -/
theorem error_of_runSteps {name : String} {limit : Nat} {r : Runner δ} {e : RunError}
    (h : (runSteps name limit r).outcome = .failed e) :
    ∃ fine cause cadence, stepCalls limit r = fine ++ [.step (.failed cause) cadence] ∧
      e = .step name (runSteps name limit r).state.steps cause := by
  induction limit, r using round_induction with
  | zero r => cases h
  | next limit r ho ih =>
    rw [runSteps_of_goesOn ho] at h ⊢
    obtain ⟨fine, cause, cadence, hcalls, he⟩ := ih (Outcome.map_eq_failed.mp h)
    refine ⟨r.stepCall :: fine, cause, cadence, ?_, he⟩
    rw [stepCalls_of_goesOn ho, hcalls]
    rfl
  | cut limit r ho => rw [runSteps_of_cut ho] at h; cases h
  | restart limit r ho => rw [runSteps_of_restart ho] at h; cases h
  | failed limit r cause ho =>
    rw [runSteps_of_failed ho] at h ⊢
    cases h
    refine ⟨[], cause, Driver.cadence r.taken.state, ?_, rfl⟩
    rw [stepCalls_of_last ho nofun, stepCall_of_outcome ho]
    rfl
  | aborted limit r abort ho => rw [runSteps_of_aborted ho] at h; cases h

/-- An error of the setup carries the driver's name and the cause that the setup gave. -/
theorem error_of_ensureReady {e : RunError} (h : r.ensureReady.outcome = .failed e) :
    ∃ cause, r.prepared.outcome = .failed cause ∧ e = .setUp r.name cause := by
  cases hr : r.ready with
  | true => rw [ensureReady_of_ready hr] at h; cases h
  | false =>
    rw [ensureReady_of_pending hr] at h
    cases ho : r.prepared.outcome with
    | done value => rw [ho] at h; cases h
    | failed cause => rw [ho] at h; cases h; exact ⟨cause, rfl, rfl⟩
    | aborted abort => rw [ho] at h; cases h

/-- A report counts the steps that were completed, which are all that were asked for unless the
driver wanted a restart. -/
theorem report_of_runFor {limit : Nat} {report : RunReport}
    (h : (r.runFor limit).outcome = .done report) :
    report.steps = completedSteps (r.calls limit) ∧ report.steps ≤ limit ∧
      (report.restartRequested = false → report.steps = limit) := by
  cases hs : r.ensureReady.outcome with
  | done value =>
    rw [outcome_runFor_of_done hs] at h
    obtain ⟨hle, heq⟩ := report_of_runSteps h
    have hsetUp : completedSteps r.setUpCalls = 0 := by
      rw [setUpCalls]
      split <;> rfl
    refine ⟨?_, hle, heq⟩
    rw [calls_of_done hs, completedSteps_append, hsetUp, Nat.zero_add]
    exact steps_of_runSteps h
  | failed e => rw [runFor_of_failed hs] at h; cases h
  | aborted abort => rw [runFor_of_aborted hs] at h; cases h

/-- The error of a step is that of the last call; its index is the count that the run leaves. -/
theorem error_of_runFor {limit : Nat} {name : String} {index : UInt32} {cause : DriverError}
    (h : (r.runFor limit).outcome = .failed (.step name index cause)) :
    (r.runFor limit).state.steps = index ∧
      ∃ fine cadence, r.calls limit = fine ++ [.step (.failed cause) cadence] := by
  cases hs : r.ensureReady.outcome with
  | done value =>
    rw [outcome_runFor_of_done hs] at h
    obtain ⟨fine, _, cadence, hcalls, he⟩ := error_of_runSteps h
    cases he
    rw [runFor_of_done hs, calls_of_done hs, hcalls, ← List.append_assoc]
    exact ⟨rfl, r.setUpCalls ++ fine, cadence, rfl⟩
  | failed e =>
    rw [runFor_of_failed hs] at h
    obtain ⟨_, -, rfl⟩ := error_of_ensureReady hs
    cases h
  | aborted abort => rw [runFor_of_aborted hs] at h; cases h

/-- After bounded runs of a fresh runner, one after the other and whatever they came to, and one
more: the count of steps is the number of steps that succeeded so far, modulo the word; a report
counts the steps of its run that succeeded, at most as many as were allowed and fewer only when a
reset was asked for; an error of a step is that of the last call, its index is the number of steps
that had succeeded before, modulo the word, and the failure leaves the count at that. While the
clock can count the delay calls, which one that wraps always can, it has moved by the cadences
behind the steps that went on, each as the driver had it right after that step, and by nothing else.
When it cannot, one of the runs has ended the program. -/
theorem steps_and_time_add_up (r : Runner δ) (hfresh : r.Fresh) (limits : List Nat) (limit : Nat) :
    let before := r.runEach limits
    let earlier := r.history limits
    let run := before.runFor limit
    let calls := before.calls limit
    run.state.steps.toNat = completedSteps (earlier ++ calls) % 2 ^ 32 ∧
    (∀ report, run.outcome = .done report →
      report.steps = completedSteps calls ∧ report.steps ≤ limit ∧
      (report.steps < limit → report.restartRequested = true)) ∧
    (∀ name index cause, run.outcome = .failed (.step name index cause) →
      run.state.steps = index ∧
      ∃ fine cadence, calls = fine ++ [.step (.failed cause) cadence] ∧
        index.toNat = completedSteps (earlier ++ fine) % 2 ^ 32) ∧
    (r.clock.Allows (delayCalls (earlier ++ calls)) →
      run.state.clock.now = r.clock.now + sleptMicros (earlier ++ calls)) ∧
    (¬ r.clock.Allows (delayCalls (earlier ++ calls)) →
      run.outcome = .aborted .overflow ∨
      ∃ first last later, limits = first ++ last :: later ∧
        ((r.runEach first).runFor last).outcome = .aborted .overflow) := by
  intro before earlier run calls
  have hbefore : Accounts r before earlier := accounts_runEach limits r
  have haccounts : Accounts r run.state (earlier ++ calls) :=
    hbefore.trans (accounts_runFor limit before)
  have hsteps : run.state.steps.toNat = completedSteps (earlier ++ calls) % 2 ^ 32 := by
    rw [haccounts.steps, hfresh.no_steps, UInt32.zero_add, UInt32.toNat_ofNat']
  refine ⟨hsteps, ?_, ?_, haccounts.time, ?_⟩
  · intro report hreport
    obtain ⟨hcounted, hle, heq⟩ := report_of_runFor hreport
    refine ⟨hcounted, hle, fun hlt => ?_⟩
    cases hrestart : report.restartRequested with
    | true => rfl
    | false => exact absurd (heq hrestart) (Nat.ne_of_lt hlt)
  · intro name index cause herror
    obtain ⟨hindex, fine, cadence, hcalls⟩ := error_of_runFor herror
    refine ⟨hindex, fine, cadence, hcalls, ?_⟩
    have hlast : completedSteps [DriverCall.step (.failed cause) cadence] = 0 := rfl
    rw [← hindex, hsteps, show calls = _ from hcalls, ← List.append_assoc,
      completedSteps_append _ [_], hlast, Nat.add_zero]
  · intro hfull
    by_cases hroom : r.clock.Allows (delayCalls earlier)
    · rw [delayCalls_append, ← hbefore.room hroom] at hfull
      exact .inl (outcome_runFor_of_full hfull)
    · exact .inr (exists_overflow_of_full hroom)

/-- The probe on a clock whose sums are checked. -/
def checkedProbe : Runner ScriptedDriver := { probe with clock := { overflow := .aborts } }

/-- Three bounded runs on a clock whose sums are checked. The first one ends with a failed setup and
the second with a failed step, while the third ends with a request for a reset. -/
theorem probe_adds_up :
    let run := (checkedProbe.runEach [3, 5]).runFor 5
    let calls := checkedProbe.history [3, 5] ++ (checkedProbe.runEach [3, 5]).calls 5
    checkedProbe.Fresh ∧ checkedProbe.clock.Allows (delayCalls calls) ∧
      run.outcome = .done ⟨2, true⟩ ∧ completedSteps ((checkedProbe.runEach [3, 5]).calls 5) = 2 ∧
      run.state.steps.toNat = 3 ∧ run.state.clock.now = 400 := by
  intro run calls
  have hfresh : checkedProbe.Fresh := ⟨rfl, rfl⟩
  have hrun : run.outcome = .done ⟨2, true⟩ := by decide +kernel
  have hroom : checkedProbe.clock.Allows (delayCalls calls) := by decide +kernel
  have hcount : completedSteps calls = 3 := by decide +kernel
  have hslept : sleptMicros calls = 400 := by decide +kernel
  obtain ⟨hsteps, hreport, -, htime, -⟩ := steps_and_time_add_up checkedProbe hfresh [3, 5] 5
  obtain ⟨hcalls, -⟩ := hreport ⟨2, true⟩ hrun
  refine ⟨hfresh, hroom, hrun, hcalls.symm, ?_, ?_⟩
  · exact hsteps.trans (congrArg (· % 2 ^ 32) hcount)
  · exact (htime hroom).trans (congrArg (checkedProbe.clock.now + ·) hslept)

end Runner

end Metronome
