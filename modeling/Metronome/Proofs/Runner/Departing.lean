import Metronome.Proofs.Runner.Accounting
import Metronome.Proofs.Runner.Splitting
import Metronome.Runner.Endless

/-!
# The endless run and the bounded one

An endless run does what bounded runs do, for as long as these go on, and leaves where they end
early. It is observed up to a budget of delay calls: with a budget that covers those of a bounded
run it takes over where that run stopped (`run_eq_takeOver`), and with a smaller one it is asleep
somewhere on the way (`asleepOn_run`). A budget beyond what the clock can count covers any bounded
run: both end the program at the same delay call.
-/

namespace Metronome

/-! ## The delay calls of a trace -/

/-- Whether the event is a delay call. -/
def Event.isDelay : Event → Bool
  | .delay _ => true
  | _ => false

/-- The number of delay calls in a trace. -/
def Trace.delayCount (trace : Trace) : Nat := trace.countP Event.isDelay

/-- The beginning of a trace up to its `m`-th delay call, that call included, or the whole trace
when it has fewer of them. -/
def Trace.upToDelay : Nat → Trace → Trace
  | 0, _ => []
  | _ + 1, [] => []
  | m + 1, event :: rest =>
    event :: if event.isDelay then Trace.upToDelay m rest else Trace.upToDelay (m + 1) rest

theorem Trace.delayCount_map_delay (calls : List DelayCall) :
    Trace.delayCount (calls.map .delay) = calls.length := by
  rw [Trace.delayCount, List.countP_map]
  exact List.countP_eq_length.mpr fun _ _ => rfl

theorem Trace.delayCount_append (first second : Trace) :
    Trace.delayCount (first ++ second) = first.delayCount + second.delayCount :=
  List.countP_append

/-- A trace that goes on keeps its beginning up to a delay call that it has. -/
theorem Trace.upToDelay_of_prefix {first second : Trace} {m : Nat} (h : first <+: second)
    (hm : m ≤ first.delayCount) : second.upToDelay m = first.upToDelay m := by
  obtain ⟨rest, rfl⟩ := h
  induction first generalizing m with
  | nil =>
    obtain rfl : m = 0 := Nat.le_zero.mp hm
    rw [Trace.upToDelay, Trace.upToDelay]
  | cons event first ih =>
    cases m with
    | zero => rw [Trace.upToDelay, Trace.upToDelay]
    | succ m =>
      rw [Trace.delayCount, List.countP_cons] at hm
      rw [List.cons_append, Trace.upToDelay, Trace.upToDelay]
      cases he : event.isDelay with
      | true =>
        rw [he, if_pos rfl] at hm
        rw [if_pos rfl, if_pos rfl, ih (Nat.le_of_succ_le_succ hm)]
      | false =>
        rw [he, if_neg Bool.false_ne_true] at hm
        rw [if_neg Bool.false_ne_true, if_neg Bool.false_ne_true, ih hm]

namespace Runner

/-! ## Endless runs behind some events -/

section Preceded

variable {δ : Type}

theorem preceded_preceded (first second : Trace) (e : Effect (Runner δ) Empty Departure) :
    preceded first (preceded second e) = preceded (first ++ second) e := by
  simp only [preceded, List.append_assoc]

/-- An endless run that is asleep somewhere on the way of a bounded one, with all of its budget of
delay calls made. -/
structure AsleepOn (budget : Nat) (bounded : Effect (Runner δ) RunError RunReport)
    (e : Effect (Runner δ) Empty Departure) : Prop where
  /-- It has left through no hook. -/
  asleep : e.outcome = .done .asleep
  /-- It has done a part of what the bounded run does. -/
  on_the_way : e.trace <+: bounded.trace
  /-- It has made the delay calls. -/
  budget_made : budget ≤ e.trace.delayCount

/-- An earlier piece of a trace only adds its delay calls to the budget. -/
theorem AsleepOn.preceded {budget steps : Nat} {bounded : Effect (Runner δ) RunError RunReport}
    {e : Effect (Runner δ) Empty Departure} (h : AsleepOn budget bounded e) (before : Trace) :
    AsleepOn (before.delayCount + budget) (behind steps before bounded)
      (Runner.preceded before e) where
  asleep := h.asleep
  on_the_way := (List.prefix_append_right_inj before).mpr h.on_the_way
  budget_made := by
    have hmade := h.budget_made
    show before.delayCount + budget ≤ Trace.delayCount (before ++ e.trace)
    rw [Trace.delayCount_append]
    omega

theorem AsleepOn.mono {budget budget' : Nat} {bounded : Effect (Runner δ) RunError RunReport}
    {e : Effect (Runner δ) Empty Departure} (h : AsleepOn budget bounded e)
    (hle : budget' ≤ budget) : AsleepOn budget' bounded e :=
  { h with budget_made := Nat.le_trans hle h.budget_made }

end Preceded

variable {δ : Type} [Driver δ]

/-! ## The surroundings of a run -/

/-- Rounds change neither the way out nor what a failure comes to. -/
theorem surroundings_runSteps (name : String) (limit : Nat) (r : Runner δ) :
    (runSteps name limit r).state.system = r.system ∧
      (runSteps name limit r).state.onFatal = r.onFatal := by
  induction limit, r using round_induction with
  | zero r => exact ⟨rfl, rfl⟩
  | next limit r h ih => rw [runSteps_of_goesOn h]; exact ih
  | cut limit r h => rw [runSteps_of_cut h]; exact ⟨rfl, rfl⟩
  | restart limit r h => rw [runSteps_of_restart h]; exact ⟨rfl, rfl⟩
  | failed limit r cause h => rw [runSteps_of_failed h]; exact ⟨rfl, rfl⟩
  | aborted limit r abort h => rw [runSteps_of_aborted h]; exact ⟨rfl, rfl⟩

/-- A setup changes neither, and does not sleep. -/
theorem surroundings_ensureReady (r : Runner δ) :
    r.ensureReady.state.system = r.system ∧ r.ensureReady.state.onFatal = r.onFatal ∧
      r.ensureReady.state.clock = r.clock := by
  cases hr : r.ready with
  | true => rw [ensureReady_of_ready hr]; exact ⟨rfl, rfl, rfl⟩
  | false =>
    rw [ensureReady_of_pending hr]
    cases r.prepared.outcome <;> exact ⟨rfl, rfl, rfl⟩

/-- A bounded run leaves what the runner does when it cannot go on. -/
theorem surroundings_runFor (limit : Nat) (r : Runner δ) :
    (r.runFor limit).state.system = r.system ∧ (r.runFor limit).state.onFatal = r.onFatal := by
  obtain ⟨hsystem, honFatal, -⟩ := surroundings_ensureReady r
  by_cases h : r.ensureReady.outcome = .done ()
  · rw [runFor_of_done h]
    obtain ⟨hsystem', honFatal'⟩ :=
      surroundings_runSteps r.ensureReady.state.name limit r.ensureReady.state
    exact ⟨hsystem'.trans hsystem, honFatal'.trans honFatal⟩
  · rw [state_runFor_of_not_done h]
    exact ⟨hsystem, honFatal⟩

/-! ## The rounds of an endless run -/

/-- Steps until the driver leaves or the budget is used up, with fuel for all of it. -/
def stepOn (name : String) (budget : Nat) (r : Runner δ) : Effect (Runner δ) Empty Departure :=
  stepsWithin name (budget + 1) budget r

/-- What the sleep behind the next step leaves behind, cut down to the budget. -/
def dozed (budget : Nat) (r : Runner δ) : Effect (Runner δ) Empty Unit :=
  r.counted.sleep (r.counted.pace.take budget)

/-- Falls asleep in the delay calls behind a step, which the budget does not cover. -/
def dozeOff (budget : Nat) (r : Runner δ) : Effect (Runner δ) Empty Departure :=
  ⟨.done .asleep, (r.dozed budget).state, r.taken.trace ++ (r.dozed budget).trace⟩

/-- All that a round of an endless run can come to. -/
theorem stepsWithin_succ (name : String) (fuel budget : Nat) (r : Runner δ) :
    stepsWithin name (fuel + 1) budget r =
      match r.taken.outcome with
      | .done .restart => preceded r.taken.trace r.counted.leaveToRestart
      | .done .next =>
        match (r.dozed budget).outcome with
        | .done () =>
          if r.counted.pace.length ≤ budget then
            preceded (r.taken.trace ++ (r.dozed budget).trace)
              (stepsWithin name fuel (budget - r.counted.pace.length) (r.dozed budget).state)
          else dozeOff budget r
        | .failed e => nomatch e
        | .aborted abort =>
          ⟨.aborted abort, (r.dozed budget).state, r.taken.trace ++ (r.dozed budget).trace⟩
      | .failed cause => preceded r.taken.trace (r.moved.leaveOnError (.step name r.steps cause))
      | .aborted abort => ⟨.aborted abort, r.moved, r.taken.trace⟩ := by
  rw [stepsWithin, stepOnce_eq]
  cases r.taken.outcome with
  | done step => cases step <;> rfl
  | failed cause => rfl
  | aborted abort => rfl

/-- A budget that covers the delay calls, or that the clock cannot count, makes no difference to the
sleep. -/
theorem dozed_eq_slept {budget : Nat} {r : Runner δ}
    (h : r.counted.pace.length ≤ budget ∨ ¬ r.clock.Allows budget) :
    r.dozed budget = r.slept := by
  rcases Nat.lt_or_ge budget r.counted.pace.length with hlt | hge
  · have hfull : ¬ r.counted.clock.Allows (r.counted.pace.take budget).length := by
      rw [List.length_take, Nat.min_eq_left (Nat.le_of_lt hlt)]
      exact h.resolve_left (Nat.not_le_of_lt hlt)
    have hcut := Clock.sleepAll_append_of_full hfull (r.counted.pace.drop budget)
    rw [List.take_append_drop] at hcut
    rw [dozed, slept, sleep, sleep, hcut]
  · rw [dozed, List.take_of_length_le hge, slept]

/-- More fuel than the budget is as good as any. -/
theorem stepsWithin_fuel {name : String} {fuel other budget : Nat} {r : Runner δ}
    (h : budget < fuel) (h' : budget < other) :
    stepsWithin name fuel budget r = stepsWithin name other budget r := by
  induction fuel generalizing other budget r with
  | zero => exact absurd h (Nat.not_lt_zero budget)
  | succ fuel ih =>
    cases other with
    | zero => exact absurd h' (Nat.not_lt_zero budget)
    | succ other =>
      rw [stepsWithin_succ, stepsWithin_succ]
      cases r.taken.outcome with
      | done step =>
        cases step with
        | next =>
          have hpos : 0 < r.counted.pace.length := Cadence.length_delays_pos _
          by_cases hle : r.counted.pace.length ≤ budget
          · simp only [if_pos hle]
            rw [ih (by omega) (by omega : _ < other)]
          · simp only [if_neg hle]
        | restart => rfl
      | failed cause => rfl
      | aborted abort => rfl

section StepOn

variable {name : String} {budget : Nat} {r : Runner δ}

/-- A round that the budget covers is followed by the rest of the run on what is left of it. -/
theorem stepOn_of_covered (h : r.GoesOn) (hle : r.counted.pace.length ≤ budget) :
    stepOn name budget r =
      preceded r.roundTrace (stepOn name (budget - r.counted.pace.length) r.rested) := by
  have hpos : 0 < r.counted.pace.length := Cadence.length_delays_pos _
  have hslept : r.slept.outcome = .done () := by rw [outcome_slept, if_pos h.room]
  rw [stepOn, stepsWithin_succ, h.next, dozed_eq_slept (.inl hle), hslept]
  simp only [if_pos hle]
  rw [stepOn, stepsWithin_fuel (by omega) (Nat.lt_succ_self _)]
  rfl

/-- Where the clock is full, the budget beyond it does not matter. -/
theorem stepOn_of_cut (h : r.CutShort)
    (hle : r.counted.pace.length ≤ budget ∨ ¬ r.clock.Allows budget) :
    stepOn name budget r = ⟨.aborted .overflow, r.rested, r.roundTrace⟩ := by
  have hslept : r.slept.outcome = .aborted .overflow := by rw [outcome_slept, if_neg h.full]
  rw [stepOn, stepsWithin_succ, h.next, dozed_eq_slept hle, hslept]
  rfl

/-- In a round that the budget does not cover, the runner falls asleep. -/
theorem stepOn_of_not_covered (h : r.taken.outcome = .done .next)
    (hlt : budget < r.counted.pace.length) (hroom : r.clock.Allows budget) :
    stepOn name budget r = dozeOff budget r := by
  have hdozed : (r.dozed budget).outcome = .done () := by
    rw [dozed, sleep_of_allows]
    rw [List.length_take]
    exact hroom.mono (Nat.min_le_left ..)
  rw [stepOn, stepsWithin_succ, h, hdozed]
  simp only [if_neg (Nat.not_le_of_lt hlt)]

theorem stepOn_of_restart (h : r.taken.outcome = .done .restart) :
    stepOn name budget r = preceded r.taken.trace r.counted.leaveToRestart := by
  rw [stepOn, stepsWithin_succ, h]

theorem stepOn_of_failed {cause : DriverError} (h : r.taken.outcome = .failed cause) :
    stepOn name budget r =
      preceded r.taken.trace (r.moved.leaveOnError (.step name r.steps cause)) := by
  rw [stepOn, stepsWithin_succ, h]

theorem stepOn_of_aborted {abort : Abort} (h : r.taken.outcome = .aborted abort) :
    stepOn name budget r = ⟨.aborted abort, r.moved, r.taken.trace⟩ := by
  rw [stepOn, stepsWithin_succ, h]

end StepOn

/-! ## Behind a bounded run -/

/-- What an endless run does behind a bounded one, with `left` delay calls to spare: it leaves when
that run ended early, and goes on when it came to its limit. -/
def takeOver (name : String) (left : Nat) (bounded : Effect (Runner δ) RunError RunReport) :
    Effect (Runner δ) Empty Departure :=
  match bounded.outcome with
  | .done ⟨_, true⟩ => preceded bounded.trace bounded.state.leaveToRestart
  | .done ⟨_, false⟩ => preceded bounded.trace (stepOn name left bounded.state)
  | .failed e => preceded bounded.trace (bounded.state.leaveOnError e)
  | .aborted abort => ⟨.aborted abort, bounded.state, bounded.trace⟩

/-- What came before a bounded run comes before the run that takes it over. -/
theorem takeOver_behind (name : String) (left steps : Nat) (before : Trace)
    (bounded : Effect (Runner δ) RunError RunReport) :
    takeOver name left (behind steps before bounded) =
      preceded before (takeOver name left bounded) := by
  obtain ⟨outcome, state, trace⟩ := bounded
  cases outcome with
  | done report =>
    obtain ⟨n, restart⟩ := report
    cases restart <;> exact (preceded_preceded ..).symm
  | failed e => exact (preceded_preceded ..).symm
  | aborted abort => rfl

/-- A budget that covers the delay calls of some rounds leads behind them, and so does one that the
clock cannot count: what the round takes off the budget, it takes off the room. -/
theorem stepOn_eq_takeOver {name : String} {limit budget : Nat} {r : Runner δ}
    (h : delayCalls (stepCalls limit r) ≤ budget ∨ ¬ r.clock.Allows budget) :
    stepOn name budget r =
      takeOver name (budget - delayCalls (stepCalls limit r)) (runSteps name limit r) := by
  induction limit, r using round_induction generalizing budget with
  | zero r => rfl
  | next limit r ho ih =>
    have hcalls := delayCalls_of_goesOn ho limit
    have hle : r.counted.pace.length ≤ budget := by
      rcases h with hcovered | hfull
      · omega
      · exact Nat.le_of_not_lt fun hlt => hfull (ho.room.mono (Nat.le_of_lt hlt))
    have hrest : delayCalls (stepCalls limit r.rested) ≤ budget - r.counted.pace.length ∨
        ¬ r.rested.clock.Allows (budget - r.counted.pace.length) := by
      rw [allows_rested ho, Nat.add_sub_cancel' hle]
      exact h.imp_left fun hcovered => by omega
    rw [stepOn_of_covered ho hle, ih hrest, runSteps_of_goesOn ho, takeOver_behind, hcalls,
      Nat.sub_add_eq]
  | cut limit r ho =>
    rw [stepCalls_of_cut ho, delayCalls_stepCall ho.next] at h
    rw [stepOn_of_cut ho h, runSteps_of_cut ho]
    rfl
  | restart limit r ho => rw [runSteps_of_restart ho, stepOn_of_restart ho]; rfl
  | failed limit r cause ho => rw [runSteps_of_failed ho, stepOn_of_failed ho]; rfl
  | aborted limit r abort ho => rw [runSteps_of_aborted ho, stepOn_of_aborted ho]; rfl

/-- Asleep within a round, a run is on the way of every run that has this round to do. -/
theorem asleepOn_dozeOff {budget : Nat} {r : Runner δ} (hlt : budget < r.counted.pace.length)
    (hroom : r.clock.Allows budget) {bounded : Effect (Runner δ) RunError RunReport}
    (hround : r.roundTrace <+: bounded.trace) : AsleepOn budget bounded (dozeOff budget r) := by
  have hlength : (r.counted.pace.take budget).length = budget := by
    rw [List.length_take, Nat.min_eq_left (Nat.le_of_lt hlt)]
  have hallows : r.counted.clock.Allows (r.counted.pace.take budget).length := by
    rw [hlength]
    exact hroom
  have hdozed : (r.dozed budget).trace = (r.counted.pace.take budget).map .delay := by
    rw [dozed, sleep_of_allows hallows]
  have hslept : (r.dozed budget).trace <+: r.slept.trace := by
    have happend := Clock.sleepAll_append_of_allows hallows (r.counted.pace.drop budget)
    rw [List.take_append_drop] at happend
    rw [hdozed, slept, sleep, happend]
    exact List.prefix_append ..
  refine ⟨rfl, ?_, ?_⟩
  · exact ((List.prefix_append_right_inj r.taken.trace).mpr hslept).trans hround
  · rw [dozeOff, Trace.delayCount_append, hdozed, Trace.delayCount_map_delay, hlength]
    exact Nat.le_add_left ..

/-- A budget that the clock can count and that does not cover the delay calls of some rounds ends on
the way. -/
theorem asleepOn_stepOn {name : String} {limit budget : Nat} {r : Runner δ}
    (h : budget < delayCalls (stepCalls limit r)) (hroom : r.clock.Allows budget) :
    AsleepOn budget (runSteps name limit r) (stepOn name budget r) := by
  induction limit, r using round_induction generalizing budget with
  | zero r => exact absurd h (Nat.not_lt_zero budget)
  | next limit r ho ih =>
    have hcalls := delayCalls_of_goesOn ho limit
    rw [runSteps_of_goesOn ho]
    by_cases hle : r.counted.pace.length ≤ budget
    · have hround : r.counted.pace.length ≤ r.roundTrace.delayCount := by
        rw [roundTrace, slept_of_allows ho.room, Trace.delayCount_append,
          Trace.delayCount_map_delay]
        exact Nat.le_add_left ..
      have hrest : AsleepOn (budget - r.counted.pace.length) (runSteps name limit r.rested)
          (stepOn name (budget - r.counted.pace.length) r.rested) := by
        refine ih (by omega) ?_
        rw [allows_rested ho, Nat.add_sub_cancel' hle]
        exact hroom
      rw [stepOn_of_covered ho hle]
      exact (hrest.preceded r.roundTrace).mono (by omega)
    · rw [stepOn_of_not_covered ho.next (Nat.lt_of_not_le hle) hroom]
      exact asleepOn_dozeOff (Nat.lt_of_not_le hle) hroom (List.prefix_append ..)
  | cut limit r ho =>
    rw [stepCalls_of_cut ho, delayCalls_stepCall ho.next] at h
    rw [runSteps_of_cut ho, stepOn_of_not_covered ho.next h hroom]
    exact asleepOn_dozeOff h hroom (List.prefix_refl _)
  | restart limit r ho =>
    rw [delayCalls_stepCalls_of_last ho (by simp)] at h
    exact absurd h (Nat.not_lt_zero budget)
  | failed limit r cause ho =>
    rw [delayCalls_stepCalls_of_last ho (by simp)] at h
    exact absurd h (Nat.not_lt_zero budget)
  | aborted limit r abort ho =>
    rw [delayCalls_stepCalls_of_last ho (by simp)] at h
    exact absurd h (Nat.not_lt_zero budget)

/-! ## Endless runs -/

section Run

variable {r : Runner δ}

/-- Behind a good setup, a run is its steps. -/
theorem run_of_done (h : r.ensureReady.outcome = .done ()) (budget : Nat) :
    r.run budget = preceded r.ensureReady.trace
      (stepOn r.ensureReady.state.name budget r.ensureReady.state) := by
  rw [run, h]
  rfl

theorem run_of_failed {e : RunError} (h : r.ensureReady.outcome = .failed e) (budget : Nat) :
    r.run budget = preceded r.ensureReady.trace (r.ensureReady.state.leaveOnError e) := by
  rw [run, h]

theorem run_of_aborted {abort : Abort} (h : r.ensureReady.outcome = .aborted abort)
    (budget : Nat) :
    r.run budget = ⟨.aborted abort, r.ensureReady.state, r.ensureReady.trace⟩ := by
  rw [run, h]

/-- The delay calls of a bounded run are those of its rounds. -/
theorem delayCalls_calls_of_done (h : r.ensureReady.outcome = .done ()) (limit : Nat) :
    delayCalls (r.calls limit) = delayCalls (stepCalls limit r.ensureReady.state) := by
  rw [calls_of_done h, delayCalls_append, delayCalls_setUpCalls, Nat.zero_add]

/-- A budget that covers the delay calls of a bounded run, or that the clock cannot count, leads
behind that run. -/
theorem run_eq_takeOver {limit budget : Nat}
    (h : delayCalls (r.calls limit) ≤ budget ∨ ¬ r.clock.Allows budget) :
    r.run budget = takeOver r.ensureReady.state.name
      (budget - delayCalls (r.calls limit)) (r.runFor limit) := by
  obtain ⟨-, -, hclock⟩ := surroundings_ensureReady r
  cases hs : r.ensureReady.outcome with
  | done value =>
    rw [delayCalls_calls_of_done hs, ← hclock] at h
    rw [runFor_of_done hs, run_of_done hs, stepOn_eq_takeOver h, takeOver_behind,
      delayCalls_calls_of_done hs]
  | failed e => rw [runFor_of_failed hs, run_of_failed hs]; rfl
  | aborted abort => rw [runFor_of_aborted hs, run_of_aborted hs]; rfl

/-- A budget that the clock can count and that does not cover the delay calls of a bounded run ends
on its way. -/
theorem asleepOn_run {limit budget : Nat} (h : budget < delayCalls (r.calls limit))
    (hroom : r.clock.Allows budget) : AsleepOn budget (r.runFor limit) (r.run budget) := by
  obtain ⟨-, -, hclock⟩ := surroundings_ensureReady r
  by_cases hs : r.ensureReady.outcome = .done ()
  · rw [delayCalls_calls_of_done hs] at h
    rw [← hclock] at hroom
    rw [runFor_of_done hs, run_of_done hs]
    exact ((asleepOn_stepOn h hroom).preceded r.ensureReady.trace).mono (Nat.le_add_left ..)
  · rw [calls_of_not_done hs, delayCalls_setUpCalls] at h
    exact absurd h (Nat.not_lt_zero budget)

/-- With a budget below the delay calls of a bounded run, an endless one leaves through no hook. -/
theorem outcome_run_of_short {limit budget : Nat} (h : budget < delayCalls (r.calls limit)) :
    (r.run budget).outcome =
      if r.clock.Allows budget then .done .asleep else .aborted .overflow := by
  by_cases hroom : r.clock.Allows budget
  · rw [if_pos hroom]
    exact (asleepOn_run h hroom).asleep
  · have hfull : ¬ r.clock.Allows (delayCalls (r.calls limit)) := fun hall =>
      hroom (hall.mono (Nat.le_of_lt h))
    rw [if_neg hroom, run_eq_takeOver (.inr hroom), takeOver, outcome_runFor_of_full hfull]

end Run

/-- A runner whose setup is pending, on a driver that refuses it at any instant and is left as it
was. -/
structure Refused (d : δ) (r : Runner δ) : Prop where
  pending : r.ready = false
  device : r.device = d
  refuses : ∀ now, ∃ cause l, Driver.setUp now d = ⟨.failed cause, d, l⟩

namespace Refused

variable {d : δ} {r : Runner δ}

theorem ensureReady (h : Refused d r) :
    (∃ e, r.ensureReady.outcome = .failed e) ∧ Refused d r.ensureReady.state := by
  obtain ⟨cause, l, hrefuse⟩ := h.refuses r.clock.now
  have hprepared : r.prepared = ⟨.failed cause, d, l⟩ := by rw [prepared, h.device, hrefuse]
  rw [ensureReady_of_pending h.pending, hprepared]
  refine ⟨⟨_, rfl⟩, h.pending, ?_, h.refuses⟩
  rw [attempted, hprepared]

theorem runFor (h : Refused d r) (limit : Nat) : Refused d (r.runFor limit).state := by
  obtain ⟨⟨e, hfailed⟩, hstate⟩ := h.ensureReady
  rw [runFor_of_failed hfailed]
  exact hstate

theorem runEach (h : Refused d r) (limits : List Nat) : Refused d (r.runEach limits) := by
  induction limits generalizing r with
  | nil => exact h
  | cons limit limits ih => exact ih (h.runFor limit)

/-- A refused runner leaves its driver as it is. -/
theorem run (h : Refused d r) (budget : Nat) : (r.run budget).state.device = d := by
  obtain ⟨⟨e, hfailed⟩, hstate⟩ := h.ensureReady
  rw [run_of_failed hfailed]
  exact hstate.device

end Refused

/-- The run that takes over begins with what it takes over. -/
theorem trace_takeOver (name : String) (left : Nat)
    (bounded : Effect (Runner δ) RunError RunReport) :
    bounded.trace <+: (takeOver name left bounded).trace := by
  rw [takeOver]
  split
  · exact List.prefix_append ..
  · exact List.prefix_append ..
  · exact List.prefix_append ..
  · exact List.prefix_refl ..

/-- Whatever the budget, up to a delay call that it covers an endless run does what a bounded run
does that makes this call. The longer of the two traces goes on where the shorter one ends; which
one that is depends on whether the budget covers the bounded run. -/
theorem upToDelay_run {r : Runner δ} {limit budget m : Nat}
    (hbounded : m ≤ (r.runFor limit).trace.delayCount) (hbudget : m ≤ budget) :
    (r.run budget).trace.upToDelay m = (r.runFor limit).trace.upToDelay m := by
  by_cases h : delayCalls (r.calls limit) ≤ budget ∨ ¬ r.clock.Allows budget
  · rw [run_eq_takeOver h]
    exact Trace.upToDelay_of_prefix (trace_takeOver ..) hbounded
  · obtain ⟨hshort, hroom⟩ := not_or.mp h
    have hasleep := asleepOn_run (Nat.lt_of_not_le hshort) (not_not.mp hroom)
    have hm := Nat.le_trans hbudget hasleep.budget_made
    exact (Trace.upToDelay_of_prefix hasleep.on_the_way hm).symm

/-! ## Leaving -/

/-- With every budget that covers the delay calls of the bounded run of `limit` steps, the endless
run of `r` does what that run does, then writes `last`, and then calls the hook. -/
def LeavesAfter (r : Runner δ) (limit : Nat) (hook : Hook) (last : Trace) : Prop :=
  ∀ budget, delayCalls (r.calls limit) ≤ budget →
    r.run budget =
      ⟨.done (.left hook (r.system.call hook).fate), (r.runFor limit).state,
        (r.runFor limit).trace ++ (last ++ (r.system.call hook).trace)⟩

/-- The endless run of `r` leaves behind the bounded run of `limit` steps because of an error: it
resets or halts the device, as `r` is set to. -/
def LeavesOnError (r : Runner δ) (limit : Nat) (e : RunError) : Prop :=
  let name := (r.runFor limit).state.name
  (r.onFatal = .restart → r.LeavesAfter limit .restart
    [record .error e.message, record .warn s!"{name}: unrecoverable error, restarting"]) ∧
  (r.onFatal = .halt → r.LeavesAfter limit .halt
    [record .error e.message, record .warn s!"{name}: unrecoverable error, halting"])

/-- Where a bounded run ends with a restart, the run without a bound leaves for it. -/
theorem leavesAfter_restart {r : Runner δ} {limit steps : Nat}
    (h : (r.runFor limit).outcome = .done ⟨steps, true⟩) :
    r.LeavesAfter limit .restart
      [record .info s!"{(r.runFor limit).state.name}: restart requested"] := by
  intro budget hbudget
  obtain ⟨hsystem, -⟩ := surroundings_runFor limit r
  rw [run_eq_takeOver (.inl hbudget), takeOver, h, ← hsystem]
  rfl

/-- Behind a bounded run that fails an endless one writes the error and what it is going to do, and
leaves by the hook for failures. -/
theorem leavesAfter_failed {r : Runner δ} {limit : Nat} {e : RunError}
    (h : (r.runFor limit).outcome = .failed e) :
    r.LeavesAfter limit r.onFatal.hook
      [record .error e.message, record .warn ((r.runFor limit).state.name ++
        (": unrecoverable error, " ++ r.onFatal.gerund))] := by
  intro budget hbudget
  obtain ⟨hsystem, honFatal⟩ := surroundings_runFor limit r
  rw [run_eq_takeOver (.inl hbudget), takeOver, h, ← hsystem, ← honFatal, ← String.append_assoc]
  rfl

/-- Where a bounded run fails, the run without a bound leaves on that error. -/
theorem leavesOnError {r : Runner δ} {limit : Nat} {e : RunError}
    (h : (r.runFor limit).outcome = .failed e) : r.LeavesOnError limit e := by
  have hleaves := leavesAfter_failed h
  constructor
  · intro hreset
    rw [hreset] at hleaves
    exact hleaves
  · intro hhalt
    rw [hhalt] at hleaves
    exact hleaves

/-- An endless run agrees with the bounded ones. If the setup fails, it does what a run of one step
does and leaves on that error. If the first `k` steps go on and the next one does not, it does what
a run of `k + 1` steps does; it leaves for a reset, whatever a failure comes to, when that step asks
for one, and on the error when it fails. While a bounded run of any length has delay calls left, the
endless run has called no hook: it is asleep, or has ended the program where the clock cannot count
that many. Up to each of these delay calls the two do the same. -/
theorem run_agrees_with_runFor (r : Runner δ) :
    (∀ cause, r.ready = false → r.prepared.outcome = .failed cause →
      let e := RunError.setUp r.name cause
      (r.runFor 1).outcome = .failed e ∧ r.LeavesOnError 1 e) ∧
    (∀ k, (r.runFor k).outcome = .done ⟨k, false⟩ →
      let reached := (r.runFor k).state
      let bounded := r.runFor (k + 1)
      (reached.taken.outcome = .done .restart →
        bounded.outcome = .done ⟨k + 1, true⟩ ∧
        r.LeavesAfter (k + 1) .restart
          [record .info s!"{bounded.state.name}: restart requested"]) ∧
      (∀ cause, reached.taken.outcome = .failed cause →
        let e := RunError.step r.ensureReady.state.name reached.steps cause
        bounded.outcome = .failed e ∧ r.LeavesOnError (k + 1) e)) ∧
    (∀ n,
      (∀ budget, budget < delayCalls (r.calls n) →
        (r.run budget).outcome =
          if r.clock.Allows budget then .done .asleep else .aborted .overflow) ∧
      (∀ m budget, m ≤ (r.runFor n).trace.delayCount → m ≤ budget →
        (r.run budget).trace.upToDelay m = (r.runFor n).trace.upToDelay m)) := by
  refine ⟨?_, ?_, ?_⟩
  · intro cause hr hcause e
    have herror : (r.runFor 1).outcome = .failed e := by rw [runFor_of_unprepared hr hcause]
    exact ⟨herror, leavesOnError herror⟩
  · intro k hk reached bounded
    have hbounded : bounded = _ := runFor_add_of_limit hk 1
    constructor
    · intro hstep
      have hrestart : bounded.outcome = .done ⟨k + 1, true⟩ := by
        rw [hbounded, runSteps_of_restart hstep, Nat.add_comm k 1]
        rfl
      exact ⟨hrestart, leavesAfter_restart hrestart⟩
    · intro cause hstep e
      have herror : bounded.outcome = .failed e := by
        rw [hbounded, runSteps_of_failed hstep]
        rfl
      exact ⟨herror, leavesOnError herror⟩
  · intro n
    exact ⟨fun budget => outcome_run_of_short, fun m budget => upToDelay_run⟩

/-- A device that is to be reset on failures, under a driver whose second step fails. -/
theorem probe_leaves :
    let r := (probe.runFor 0).state
    (r.runFor 1).outcome = .done ⟨1, false⟩ ∧
    (r.run 1).outcome = .done (.left .restart (.noted .restart)) ∧
    (r.run 1).trace = (r.runFor 2).trace ++
      [record .error "probe step 1 failed: console write failed",
        record .warn "probe: unrecoverable error, restarting"] := by
  intro r
  have hk : (r.runFor 1).outcome = .done ⟨1, false⟩ := rfl
  obtain ⟨-, hsteps, -⟩ := run_agrees_with_runFor r
  obtain ⟨-, hfailed⟩ := hsteps 1 hk
  obtain ⟨-, hreset, -⟩ := hfailed .console rfl
  have hrun := hreset rfl 1 (by decide)
  rw [hrun]
  exact ⟨hk, rfl, by decide⟩

end Runner

end Metronome
