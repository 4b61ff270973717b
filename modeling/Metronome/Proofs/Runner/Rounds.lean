import Metronome.Proofs.Runner.Sleeping
import Metronome.Runner.Basic

/-!
# The rounds of a bounded run

A round is one step of the driver and, when that step goes on, one cadence of sleep. A bounded run
is a setup, unless that has been done, and then one round after the other.

* `stride_of_goesOn` and the lemmas behind it: all that a round can come to.
* `round_induction`: the same five cases for any number of rounds.
* `runSteps_add`: `a + b` rounds are `a` rounds and then `b` rounds, unless the first `a` end early.
* `runSteps_rename`: the given name shows in errors only.
* `ensureReady_of_ready` and `ensureReady_of_pending`: all that the setup can come to.
-/

namespace Metronome

/-! ## Outcomes, reports and errors -/

/-- The report of a run that took some steps before the reported ones. -/
def RunReport.after (taken : Nat) (r : RunReport) : RunReport := { r with steps := r.steps + taken }

/-- The error under another name of the driver. -/
def RunError.under (name : String) : RunError → RunError
  | .setUp _ cause => .setUp name cause
  | .step _ index cause => .step name index cause

namespace Outcome

variable {ε : Type}

theorem map_after_zero (o : Outcome ε RunReport) : o.map (·.after 0) = o := by
  cases o <;> rfl

theorem map_after_after (o : Outcome ε RunReport) (a b : Nat) :
    (o.map (·.after a)).map (·.after b) = o.map (·.after (a + b)) := by
  cases o with
  | done report => simp only [Outcome.map, RunReport.after, Nat.add_assoc]
  | failed e => rfl
  | aborted abort => rfl

end Outcome

namespace Runner

/-! ## One run behind another -/

section Resume

variable {δ : Type}

/-- The effect of a run behind some steps that did `before`. -/
def behind (steps : Nat) (before : Trace) (e : Effect (Runner δ) RunError RunReport) :
    Effect (Runner δ) RunError RunReport :=
  ⟨e.outcome.map (·.after steps), e.state, before ++ e.trace⟩

/-- Goes on with `more` where a run came to its limit. A run that ended early stays as it is. -/
def resume (first : Effect (Runner δ) RunError RunReport)
    (more : Runner δ → Effect (Runner δ) RunError RunReport) :
    Effect (Runner δ) RunError RunReport :=
  match first.outcome with
  | .done ⟨steps, false⟩ => behind steps first.trace (more first.state)
  | _ => first

variable {first : Effect (Runner δ) RunError RunReport}

/-- What follows a run that reached its limit is counted behind it. -/
theorem resume_of_limit {steps : Nat} (h : first.outcome = .done ⟨steps, false⟩)
    (more : Runner δ → Effect (Runner δ) RunError RunReport) :
    resume first more = behind steps first.trace (more first.state) := by
  rw [resume, h]

theorem resume_of_early (h : ∀ steps, first.outcome ≠ .done ⟨steps, false⟩)
    (more : Runner δ → Effect (Runner δ) RunError RunReport) : resume first more = first := by
  rw [resume]
  split
  · next steps hd => exact absurd hd (h steps)
  · rfl

theorem behind_zero (e : Effect (Runner δ) RunError RunReport) : behind 0 [] e = e := by
  simp only [behind, Outcome.map_after_zero, List.nil_append]

theorem behind_behind (a b : Nat) (s t : Trace) (e : Effect (Runner δ) RunError RunReport) :
    behind a s (behind b t e) = behind (b + a) (s ++ t) e := by
  simp only [behind, Outcome.map_after_after, List.append_assoc]

/-- A run behind some steps comes to its limit exactly when the run itself does. -/
theorem behind_limit_iff (steps n : Nat) (before : Trace) :
    (behind steps before first).outcome = .done ⟨n, false⟩ ↔
      ∃ m, first.outcome = .done ⟨m, false⟩ ∧ m + steps = n := by
  simp only [behind, Outcome.map_eq_done]
  constructor
  · rintro ⟨⟨m, restart⟩, ho, hr⟩
    simp only [RunReport.after, RunReport.mk.injEq] at hr
    exact ⟨m, by rw [ho, hr.2], hr.1⟩
  · rintro ⟨m, ho, rfl⟩
    exact ⟨_, ho, rfl⟩

/-- What came before a run comes before all that follows on it. -/
theorem resume_behind (steps : Nat) (before : Trace)
    (more : Runner δ → Effect (Runner δ) RunError RunReport) :
    resume (behind steps before first) more = behind steps before (resume first more) := by
  by_cases h : ∃ n, first.outcome = .done ⟨n, false⟩
  · obtain ⟨n, h⟩ := h
    have hb := (behind_limit_iff steps (n + steps) before).mpr ⟨n, h, rfl⟩
    rw [resume_of_limit h, resume_of_limit hb, behind_behind]
    rfl
  · have hf : ∀ n, first.outcome ≠ .done ⟨n, false⟩ := fun n hn => h ⟨n, hn⟩
    have hb : ∀ n, (behind steps before first).outcome ≠ .done ⟨n, false⟩ := by
      intro n hn
      obtain ⟨m, hm, -⟩ := (behind_limit_iff steps n before).mp hn
      exact hf m hm
    rw [resume_of_early hf, resume_of_early hb]

end Resume

/-- With room for some delay calls, a runner makes them all. -/
theorem sleep_of_allows {δ : Type} {r : Runner δ} {calls : List DelayCall}
    (h : r.clock.Allows calls.length) :
    r.sleep calls =
      ⟨.done (), { r with clock := r.clock.afterAll calls }, calls.map .delay⟩ := by
  rw [sleep, Clock.sleepAll_of_allows h]

variable {δ : Type} [Driver δ]

/-! ## One round -/

/-- What the driver's next step leaves behind. -/
def taken (r : Runner δ) : Effect δ DriverError Step := Driver.step r.clock.now r.device

/-- The runner after a step that failed: nothing but the driver has changed. -/
def moved (r : Runner δ) : Runner δ := { r with device := r.taken.state }

/-- The runner after a step that succeeded. -/
def counted (r : Runner δ) : Runner δ := { r with device := r.taken.state, steps := r.steps + 1 }

/-- What the sleep behind the next step leaves behind, should that step go on. -/
def slept (r : Runner δ) : Effect (Runner δ) Empty Unit := r.counted.sleep r.counted.pace

/-- The runner after a step that goes on and the sleep behind it. -/
def rested (r : Runner δ) : Runner δ := r.slept.state

/-- What a step that goes on and the sleep behind it do. -/
def roundTrace (r : Runner δ) : Trace := r.taken.trace ++ r.slept.trace

/-- The next step goes on, and the clock can count the delay calls behind it. -/
structure GoesOn (r : Runner δ) : Prop where
  next : r.taken.outcome = .done .next
  room : r.clock.Allows r.counted.pace.length

/-- The next step goes on, and the delay calls behind it are more than the clock can count. -/
structure CutShort (r : Runner δ) : Prop where
  next : r.taken.outcome = .done .next
  full : ¬ r.clock.Allows r.counted.pace.length

instance (r : Runner δ) : Decidable r.GoesOn :=
  decidable_of_iff (_ ∧ _) ⟨fun h => ⟨h.1, h.2⟩, fun h => ⟨h.next, h.room⟩⟩

/-- A step is counted when it ends well. -/
theorem stepOnce_eq (name : String) (r : Runner δ) :
    r.stepOnce name =
      match r.taken.outcome with
      | .done step => ⟨.done step, r.counted, r.taken.trace⟩
      | .failed cause => ⟨.failed (.step name r.steps cause), r.moved, r.taken.trace⟩
      | .aborted abort => ⟨.aborted abort, r.moved, r.taken.trace⟩ := rfl

/-- The sleep behind a step ends the program exactly when the clock has no room for it. -/
theorem outcome_slept (r : Runner δ) :
    r.slept.outcome =
      if r.clock.Allows r.counted.pace.length then .done () else .aborted .overflow :=
  Clock.outcome_sleepAll r.clock r.counted.pace

/-- With room for its delay calls, all of the cadence is slept for. -/
theorem slept_of_allows {r : Runner δ} (h : r.clock.Allows r.counted.pace.length) :
    r.slept =
      ⟨.done (), { r.counted with clock := r.clock.afterAll r.counted.pace },
        r.counted.pace.map .delay⟩ :=
  sleep_of_allows (r := r.counted) h

/-- A round that goes on takes the room of its delay calls. -/
theorem allows_rested {r : Runner δ} (h : r.GoesOn) (n : Nat) :
    r.rested.clock.Allows n ↔ r.clock.Allows (r.counted.pace.length + n) := by
  rw [rested, slept_of_allows h.room]
  exact Clock.allows_afterAll h.room

section Round

variable {name : String} {limit : Nat} {r : Runner δ}

theorem stride_of_goesOn (h : r.GoesOn) :
    r.stride name = ⟨.done .next, r.rested, r.roundTrace⟩ := by
  have hslept : (r.counted.sleep r.counted.pace).outcome = .done () := by
    rw [show r.counted.sleep r.counted.pace = r.slept from rfl, outcome_slept, if_pos h.room]
  rw [stride, stepOnce_eq, h.next]
  simp only [hslept]
  rfl

theorem stride_of_cut (h : r.CutShort) :
    r.stride name = ⟨.aborted .overflow, r.rested, r.roundTrace⟩ := by
  have hslept : (r.counted.sleep r.counted.pace).outcome = .aborted .overflow := by
    rw [show r.counted.sleep r.counted.pace = r.slept from rfl, outcome_slept, if_neg h.full]
  rw [stride, stepOnce_eq, h.next]
  simp only [hslept]
  rfl

theorem stride_of_restart (h : r.taken.outcome = .done .restart) :
    r.stride name = ⟨.done .restart, r.counted, r.taken.trace⟩ := by
  rw [stride, stepOnce_eq, h]

theorem stride_of_failed {cause : DriverError} (h : r.taken.outcome = .failed cause) :
    r.stride name = ⟨.failed (.step name r.steps cause), r.moved, r.taken.trace⟩ := by
  rw [stride, stepOnce_eq, h]

theorem stride_of_aborted {abort : Abort} (h : r.taken.outcome = .aborted abort) :
    r.stride name = ⟨.aborted abort, r.moved, r.taken.trace⟩ := by
  rw [stride, stepOnce_eq, h]

@[simp]
theorem runSteps_zero (name : String) (r : Runner δ) :
    runSteps name 0 r = ⟨.done ⟨0, false⟩, r, []⟩ := rfl

/-- A round that goes on comes before the rounds that are left. -/
theorem runSteps_of_goesOn (h : r.GoesOn) :
    runSteps name (limit + 1) r = behind 1 r.roundTrace (runSteps name limit r.rested) := by
  rw [runSteps, stride_of_goesOn h, behind]
  simp only
  cases (runSteps name limit r.rested).outcome <;> rfl

theorem runSteps_of_cut (h : r.CutShort) :
    runSteps name (limit + 1) r = ⟨.aborted .overflow, r.rested, r.roundTrace⟩ := by
  rw [runSteps, stride_of_cut h]

theorem runSteps_of_restart (h : r.taken.outcome = .done .restart) :
    runSteps name (limit + 1) r = ⟨.done ⟨1, true⟩, r.counted, r.taken.trace⟩ := by
  rw [runSteps, stride_of_restart h]

theorem runSteps_of_failed {cause : DriverError} (h : r.taken.outcome = .failed cause) :
    runSteps name (limit + 1) r =
      ⟨.failed (.step name r.steps cause), r.moved, r.taken.trace⟩ := by
  rw [runSteps, stride_of_failed h]

theorem runSteps_of_aborted {abort : Abort} (h : r.taken.outcome = .aborted abort) :
    runSteps name (limit + 1) r = ⟨.aborted abort, r.moved, r.taken.trace⟩ := by
  rw [runSteps, stride_of_aborted h]

end Round

/-- To prove something of a runner and a number of rounds, look at what its next step comes to; it
may be supposed of one round less when that step goes on and is slept for. -/
@[elab_as_elim]
theorem round_induction {motive : Nat → Runner δ → Prop} (zero : ∀ r, motive 0 r)
    (next : ∀ limit r, r.GoesOn → motive limit r.rested → motive (limit + 1) r)
    (cut : ∀ limit r, r.CutShort → motive (limit + 1) r)
    (restart : ∀ limit r, r.taken.outcome = .done .restart → motive (limit + 1) r)
    (failed : ∀ limit r cause, r.taken.outcome = .failed cause → motive (limit + 1) r)
    (aborted : ∀ limit r abort, r.taken.outcome = .aborted abort → motive (limit + 1) r)
    (limit : Nat) (r : Runner δ) : motive limit r := by
  induction limit generalizing r with
  | zero => exact zero r
  | succ limit ih =>
    cases h : r.taken.outcome with
    | done step =>
      cases step with
      | next =>
        by_cases hroom : r.clock.Allows r.counted.pace.length
        · exact next limit r ⟨h, hroom⟩ (ih r.rested)
        · exact cut limit r ⟨h, hroom⟩
      | restart => exact restart limit r h
    | failed cause => exact failed limit r cause h
    | aborted abort => exact aborted limit r abort h

/-! ## Rounds one after the other -/

/-- `a + b` rounds are `a` rounds and then, unless these ended early, `b` rounds. -/
theorem runSteps_add (name : String) (a b : Nat) (r : Runner δ) :
    runSteps name (a + b) r = resume (runSteps name a r) (runSteps name b) := by
  induction a, r using round_induction with
  | zero r => rw [runSteps_zero, resume_of_limit rfl, behind_zero, Nat.zero_add]
  | next a r h ih =>
    rw [Nat.succ_add, runSteps_of_goesOn h, runSteps_of_goesOn h, resume_behind, ih]
  | cut a r h => rw [Nat.succ_add, runSteps_of_cut h, runSteps_of_cut h]; rfl
  | restart a r h => rw [Nat.succ_add, runSteps_of_restart h, runSteps_of_restart h]; rfl
  | failed a r cause h => rw [Nat.succ_add, runSteps_of_failed h, runSteps_of_failed h]; rfl
  | aborted a r abort h => rw [Nat.succ_add, runSteps_of_aborted h, runSteps_of_aborted h]; rfl

/-- The name shows in errors only. -/
theorem runSteps_rename (name other : String) (limit : Nat) (r : Runner δ) :
    runSteps other limit r =
      { runSteps name limit r with
        outcome := (runSteps name limit r).outcome.mapError (RunError.under other) } := by
  induction limit, r using round_induction with
  | zero r => rfl
  | next limit r h ih =>
    rw [runSteps_of_goesOn h, runSteps_of_goesOn h, ih]
    simp only [behind, Outcome.mapError_map]
  | cut limit r h => rw [runSteps_of_cut h, runSteps_of_cut h]; rfl
  | restart limit r h => rw [runSteps_of_restart h, runSteps_of_restart h]; rfl
  | failed limit r cause h => rw [runSteps_of_failed h, runSteps_of_failed h]; rfl
  | aborted limit r abort h => rw [runSteps_of_aborted h, runSteps_of_aborted h]; rfl

/-- A report counts at most as many steps as were allowed, and fewer only when the last one asked
for a reset. -/
theorem report_of_runSteps {name : String} {limit : Nat} {r : Runner δ} {report : RunReport}
    (h : (runSteps name limit r).outcome = .done report) :
    report.steps ≤ limit ∧ (report.restartRequested = false → report.steps = limit) := by
  induction limit, r using round_induction generalizing report with
  | zero r =>
    cases h
    exact ⟨Nat.le_refl 0, fun _ => rfl⟩
  | next limit r ho ih =>
    rw [runSteps_of_goesOn ho] at h
    obtain ⟨rest, hrest, rfl⟩ := Outcome.map_eq_done.mp h
    obtain ⟨hle, heq⟩ := ih hrest
    exact ⟨Nat.succ_le_succ hle, fun hr => congrArg (· + 1) (heq hr)⟩
  | cut limit r ho => rw [runSteps_of_cut ho] at h; cases h
  | restart limit r ho =>
    rw [runSteps_of_restart ho] at h
    cases h
    exact ⟨Nat.le_add_left 1 limit, nofun⟩
  | failed limit r cause ho => rw [runSteps_of_failed ho] at h; cases h
  | aborted limit r abort ho => rw [runSteps_of_aborted ho] at h; cases h

/-- No step touches what is known of the setup. -/
theorem ready_runSteps (name : String) (limit : Nat) (r : Runner δ) :
    (runSteps name limit r).state.ready = r.ready := by
  induction limit, r using round_induction with
  | zero r => rfl
  | next limit r h ih => rw [runSteps_of_goesOn h]; exact ih
  | cut limit r h => rw [runSteps_of_cut h]; rfl
  | restart limit r h => rw [runSteps_of_restart h]; rfl
  | failed limit r cause h => rw [runSteps_of_failed h]; rfl
  | aborted limit r abort h => rw [runSteps_of_aborted h]; rfl

/-! ## The setup -/

/-- What the driver's setup leaves behind. -/
def prepared (r : Runner δ) : Effect δ DriverError Unit := Driver.setUp r.clock.now r.device

/-- The runner after a setup that failed: nothing but the driver has changed. -/
def attempted (r : Runner δ) : Runner δ := { r with device := r.prepared.state }

/-- The runner after a setup that succeeded. -/
def readied (r : Runner δ) : Runner δ := { r with device := r.prepared.state, ready := true }

/-- The record that opens a setup. -/
def opening (r : Runner δ) : Event := record .info s!"{r.name}: setup"

/-- The record that closes a setup; it shows the cadence at that moment. -/
def closing (r : Runner δ) : Event :=
  record .info s!"{r.name}: ready, stepping every {(Driver.cadence r.prepared.state).display}"

section SetUp

variable {r : Runner δ}

theorem ensureReady_of_ready (h : r.ready = true) : r.ensureReady = ⟨.done (), r, []⟩ := by
  rw [ensureReady, if_pos h]

/-- All that a pending setup can come to. -/
theorem ensureReady_of_pending (h : r.ready = false) :
    r.ensureReady =
      match r.prepared.outcome with
      | .done () => ⟨.done (), r.readied, r.opening :: r.prepared.trace ++ [r.closing]⟩
      | .failed cause =>
        ⟨.failed (.setUp r.name cause), r.attempted, r.opening :: r.prepared.trace⟩
      | .aborted abort => ⟨.aborted abort, r.attempted, r.opening :: r.prepared.trace⟩ := by
  rw [ensureReady, if_neg (by rw [h]; exact Bool.false_ne_true)]
  rfl

/-- A setup that succeeds leaves a runner that will not do it again. -/
theorem ready_of_ensureReady (h : r.ensureReady.outcome = .done ()) :
    r.ensureReady.state.ready = true := by
  cases hr : r.ready with
  | true => rw [ensureReady_of_ready hr]; exact hr
  | false =>
    rw [ensureReady_of_pending hr] at h ⊢
    cases ho : r.prepared.outcome with
    | done value => rfl
    | failed cause => rw [ho] at h; cases h
    | aborted abort => rw [ho] at h; cases h

/-! ## Bounded runs -/

/-- Behind a good setup, a bounded run is its rounds. -/
theorem runFor_of_done (h : r.ensureReady.outcome = .done ()) (limit : Nat) :
    r.runFor limit = behind 0 r.ensureReady.trace
      (runSteps r.ensureReady.state.name limit r.ensureReady.state) := by
  rw [runFor, h, behind, Outcome.map_after_zero]

theorem outcome_runFor_of_done (h : r.ensureReady.outcome = .done ()) (limit : Nat) :
    (r.runFor limit).outcome =
      (runSteps r.ensureReady.state.name limit r.ensureReady.state).outcome := by
  rw [runFor_of_done h, behind, Outcome.map_after_zero]

theorem runFor_of_failed {e : RunError} (h : r.ensureReady.outcome = .failed e) (limit : Nat) :
    r.runFor limit = ⟨.failed e, r.ensureReady.state, r.ensureReady.trace⟩ := by
  rw [runFor, h]

theorem runFor_of_aborted {abort : Abort} (h : r.ensureReady.outcome = .aborted abort)
    (limit : Nat) :
    r.runFor limit = ⟨.aborted abort, r.ensureReady.state, r.ensureReady.trace⟩ := by
  rw [runFor, h]

/-- A bounded run whose setup does not succeed leaves what the setup leaves. -/
theorem state_runFor_of_not_done (h : r.ensureReady.outcome ≠ .done ()) (limit : Nat) :
    (r.runFor limit).state = r.ensureReady.state := by
  cases hs : r.ensureReady.outcome with
  | done value => exact absurd hs h
  | failed e => rw [runFor_of_failed hs]
  | aborted abort => rw [runFor_of_aborted hs]

/-- A pending setup that fails is all of its run. -/
theorem runFor_of_unprepared {cause : DriverError} (hr : r.ready = false)
    (h : r.prepared.outcome = .failed cause) (limit : Nat) :
    r.runFor limit =
      ⟨.failed (.setUp r.name cause), r.attempted, r.opening :: r.prepared.trace⟩ := by
  have hs := ensureReady_of_pending hr
  rw [h] at hs
  have hfailed : r.ensureReady.outcome = .failed (.setUp r.name cause) := by rw [hs]
  rw [runFor_of_failed hfailed, hs]

/-- A pending setup that succeeds is followed by rounds. -/
theorem runFor_of_prepared (hr : r.ready = false) (h : r.prepared.outcome = .done ())
    (limit : Nat) :
    r.runFor limit = behind 0 (r.opening :: r.prepared.trace ++ [r.closing])
      (runSteps r.readied.name limit r.readied) := by
  have hs := ensureReady_of_pending hr
  rw [h] at hs
  have hdone : r.ensureReady.outcome = .done () := by rw [hs]
  rw [runFor_of_done hdone, hs]

/-- Once the setup is done, a bounded run is nothing but rounds. -/
theorem runFor_of_ready (h : r.ready = true) (limit : Nat) :
    r.runFor limit = runSteps r.name limit r := by
  have hs := ensureReady_of_ready h
  rw [runFor_of_done (by rw [hs]), hs, behind_zero]

/-- A bounded run that came to its limit has done the setup. -/
theorem ready_of_limit {limit steps : Nat} (h : (r.runFor limit).outcome = .done ⟨steps, false⟩) :
    steps = limit ∧ (r.runFor limit).state.ready = true := by
  cases hs : r.ensureReady.outcome with
  | done value =>
    rw [runFor_of_done hs] at h ⊢
    obtain ⟨n, hn, rfl⟩ := (behind_limit_iff ..).mp h
    exact ⟨(report_of_runSteps hn).2 rfl, (ready_runSteps ..).trans (ready_of_ensureReady hs)⟩
  | failed e => rw [runFor_of_failed hs] at h; cases h
  | aborted abort => rw [runFor_of_aborted hs] at h; cases h

/-- A bounded run is a shorter one and then, unless that ended early, the rounds that are left. -/
theorem runFor_add (r : Runner δ) (a b : Nat) :
    r.runFor (a + b) = resume (r.runFor a) (runSteps r.ensureReady.state.name b) := by
  cases hs : r.ensureReady.outcome with
  | done value => rw [runFor_of_done hs, runFor_of_done hs, runSteps_add, resume_behind]
  | failed e => rw [runFor_of_failed hs, runFor_of_failed hs]; rfl
  | aborted abort => rw [runFor_of_aborted hs, runFor_of_aborted hs]; rfl

/-- A longer run does first what the shorter one does. -/
theorem trace_runFor_prefix (r : Runner δ) {a b : Nat} (h : a ≤ b) :
    (r.runFor a).trace <+: (r.runFor b).trace := by
  obtain ⟨more, rfl⟩ := Nat.exists_eq_add_of_le h
  rw [runFor_add, resume]
  split
  · exact List.prefix_append ..
  · exact List.prefix_refl _

end SetUp

end Runner

end Metronome
