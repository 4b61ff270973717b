import Metronome.Proofs.Runner.Departing
import Metronome.Simulator.Play

/-!
# Processes done part by part

A process that is done part by part comes to what it comes to as a whole: a limited one behind its
setup, its rounds and what closes it (`Part.within_first_of_limit`), and one without a limit for as
long as it is observed (`Part.within_first_of_endless`).
-/

namespace Metronome

variable {δ : Type}

/-- What a process comes to that did something before. -/
def ProcessRun.behind (before : Trace) (run : ProcessRun) : ProcessRun :=
  { run with trace := before ++ run.trace }

theorem ProcessRun.behind_behind (first second : Trace) (run : ProcessRun) :
    (run.behind second).behind first = run.behind (first ++ second) := by
  simp only [ProcessRun.behind, List.append_assoc]

/-- What was seen of a process is the beginning of what it comes to, and all of it once the process
has exited. -/
structure ProcessRun.Begins (seen whole : ProcessRun) : Prop where
  trace : seen.trace <+: whole.trace
  all : seen.exit.isSome → seen = whole

theorem ProcessRun.Begins.refl (run : ProcessRun) : run.Begins run :=
  ⟨List.prefix_refl _, fun _ => rfl⟩

theorem ProcessRun.Begins.behind {seen whole : ProcessRun} (h : seen.Begins whole)
    (before : Trace) : (seen.behind before).Begins (whole.behind before) :=
  ⟨(List.prefix_append_right_inj before).mpr h.trace,
    fun hexit => congrArg (ProcessRun.behind before) (h.all hexit)⟩

/-- Nothing comes behind the part. -/
def Part.IsLast (part : Part δ) : Prop :=
  match part.standing with
  | .underway _ => False
  | _ => True

namespace Part

/-- A process that leaves through a hook has ended. -/
theorem isLast_left (leaving : Effect (Runner δ) Empty Departure) : (left leaving).IsLast := by
  obtain ⟨outcome, state, trace⟩ := leaving
  cases outcome with
  | done departure => trivial
  | failed e => cases e
  | aborted abort => trivial

/-- What is done before leaving stands in front. -/
theorem left_preceded (before : Trace) (leaving : Effect (Runner δ) Empty Departure) :
    left (Runner.preceded before leaving) = (left leaving).behind before := by
  obtain ⟨outcome, state, trace⟩ := leaving
  cases outcome with
  | done departure => rfl
  | failed e => cases e
  | aborted abort => rfl

theorem isLast_closed (report : RunReport) : (closed report : Part δ).IsLast := trivial

theorem isLast_failed (e : RunError) : (failed e : Part δ).IsLast := trivial

theorem isLast_aborted (before : Trace) (abort : Abort) :
    (⟨before, .aborted abort⟩ : Part δ).IsLast := trivial

theorem behind_behind (first second : Trace) (part : Part δ) :
    (part.behind second).behind first = part.behind (first ++ second) := by
  simp only [behind, List.append_assoc]

variable [Driver δ]

theorem isLast_endedByError (limited : Bool) (r : Runner δ) (e : RunError) :
    (endedByError limited r e).IsLast := by
  unfold endedByError
  split
  · exact isLast_failed e
  · exact isLast_left _

theorem isLast_endedByReset (limited : Bool) (r : Runner δ) (steps : Nat) :
    (endedByReset limited r steps).IsLast := by
  unfold endedByReset
  split
  · exact isLast_closed _
  · exact isLast_left _

/-- A part that leads on is followed by the next one. -/
theorem within_succ (parts : Nat) (before : Trace) (u : Underway δ) :
    within (parts + 1) ⟨before, .underway u⟩ = (u.part.within parts).behind before := rfl

/-- What was done before stands in front. -/
theorem within_behind (parts : Nat) (before : Trace) (part : Part δ) :
    (part.behind before).within parts = (part.within parts).behind before := by
  obtain ⟨trace, standing⟩ := part
  cases standing with
  | underway next =>
    cases parts with
    | zero => rfl
    | succ parts => exact (ProcessRun.behind_behind ..).symm
  | exited code => cases parts <;> rfl
  | aborted abort => cases parts <;> rfl

/-- Behind the last part it does not matter how many more are looked for. -/
theorem within_of_isLast {part : Part δ} (h : part.IsLast) (parts : Nat) :
    part.within parts = part.within 0 := by
  obtain ⟨trace, standing⟩ := part
  cases standing with
  | underway next => exact h.elim
  | exited code => cases parts <;> rfl
  | aborted abort => cases parts <;> rfl

end Part

variable [Driver δ]

/-! ## The rounds of a process -/

namespace Underway

/-- The part that a process is at behind some rounds, the last ones that it may take for now. -/
def conclude (u : Underway δ) (run : Effect (Runner δ) RunError RunReport) : Part δ :=
  match run.outcome with
  | .done ⟨steps, true⟩ =>
    (Part.endedByReset u.left.isSome run.state (u.taken + steps)).behind run.trace
  | .done ⟨steps, false⟩ =>
    if u.left.isSome then (Part.closed ⟨u.taken + steps, false⟩).behind run.trace
    else ⟨run.trace, .underway ⟨u.name, u.taken + steps, none, run.state⟩⟩
  | .failed e => (Part.endedByError u.left.isSome run.state e).behind run.trace
  | .aborted abort => ⟨run.trace, .aborted abort⟩

/-- The process behind a round that goes on. -/
def rested (u : Underway δ) : Underway δ :=
  { u with taken := u.taken + 1, left := u.left.map (· - 1), runner := u.runner.rested }

variable {u : Underway δ}

section Part

variable (hleft : u.left ≠ some 0)
include hleft

theorem part_of_goesOn (h : u.runner.GoesOn) :
    u.part = ⟨u.runner.roundTrace, .underway u.rested⟩ := by
  rw [part, if_neg hleft, Runner.stride_of_goesOn h]
  rfl

theorem part_of_cut (h : u.runner.CutShort) :
    u.part = ⟨u.runner.roundTrace, .aborted .overflow⟩ := by
  rw [part, if_neg hleft, Runner.stride_of_cut h]

theorem part_of_restart (h : u.runner.taken.outcome = .done .restart) :
    u.part = (Part.endedByReset u.left.isSome u.runner.counted (u.taken + 1)).behind
      u.runner.taken.trace := by
  rw [part, if_neg hleft, Runner.stride_of_restart h]

theorem part_of_failed {cause : DriverError} (h : u.runner.taken.outcome = .failed cause) :
    u.part = (Part.endedByError u.left.isSome u.runner.moved
      (.step u.name u.runner.steps cause)).behind u.runner.taken.trace := by
  rw [part, if_neg hleft, Runner.stride_of_failed h]

theorem part_of_aborted {abort : Abort} (h : u.runner.taken.outcome = .aborted abort) :
    u.part = ⟨u.runner.taken.trace, .aborted abort⟩ := by
  rw [part, if_neg hleft, Runner.stride_of_aborted h]

end Part

/-- What the rounds behind the first one come to, the process behind that one comes to. -/
theorem conclude_behind (u : Underway δ) (before : Trace)
    (run : Effect (Runner δ) RunError RunReport) :
    u.conclude (Runner.behind 1 before run) = (u.rested.conclude run).behind before := by
  obtain ⟨outcome, state, trace⟩ := run
  have hlimited : u.rested.left.isSome = u.left.isSome := Option.isSome_map
  have htaken (steps : Nat) : u.taken + (steps + 1) = u.rested.taken + steps := by
    rw [rested, Nat.add_right_comm, Nat.add_assoc]
  cases outcome with
  | done report =>
    obtain ⟨steps, restart⟩ := report
    cases restart with
    | true =>
      simp only [conclude, Runner.behind, Outcome.map, RunReport.after, htaken, hlimited]
      exact (Part.behind_behind ..).symm
    | false =>
      simp only [conclude, Runner.behind, Outcome.map, RunReport.after, htaken, hlimited]
      cases u.left.isSome with
      | true => exact (Part.behind_behind ..).symm
      | false => rfl
  | failed e =>
    simp only [conclude, Runner.behind, Outcome.map, hlimited]
    exact (Part.behind_behind ..).symm
  | aborted abort => rfl

/-- A process that may take `left` more steps does `rounds` rounds in so many parts: it takes all
the steps it may and is closed, or it has no limit and one part for each round. -/
def Observes (left : Option Nat) (rounds parts : Nat) : Prop :=
  left = some rounds ∧ rounds < parts ∨ left = none ∧ rounds = parts

/-- What is seen of one round more is seen in one part more. -/
theorem Observes.succ {left : Option Nat} {rounds parts : Nat}
    (h : Observes left (rounds + 1) parts) :
    left ≠ some 0 ∧ ∃ fewer, parts = fewer + 1 ∧ Observes (left.map (· - 1)) rounds fewer := by
  rcases h with ⟨rfl, hparts⟩ | ⟨rfl, rfl⟩
  · exact ⟨by simp, parts - 1, by omega, .inl ⟨rfl, by omega⟩⟩
  · exact ⟨nofun, rounds, rfl, .inr ⟨rfl, rfl⟩⟩

/-- Part by part, a process does its rounds and concludes them. -/
theorem within_eq_conclude (name : String) (rounds : Nat) (r : Runner δ) {taken parts : Nat}
    {left : Option Nat} (h : Observes left rounds parts) (before : Trace) :
    let u : Underway δ := ⟨name, taken, left, r⟩
    Part.within parts ⟨before, .underway u⟩ =
      ((u.conclude (Runner.runSteps name rounds r)).within 0).behind before := by
  intro u
  induction rounds, r using Runner.round_induction generalizing taken parts left before with
  | zero r =>
    rcases h with ⟨rfl, hparts⟩ | ⟨rfl, rfl⟩
    · obtain ⟨parts, rfl⟩ := Nat.exists_eq_succ_of_ne_zero (Nat.ne_of_gt hparts)
      have hpart : u.part = .closed ⟨taken, false⟩ := if_pos rfl
      rw [Part.within_succ, hpart, Part.within_of_isLast (Part.isLast_closed _)]
      rfl
    · exact congrArg (ProcessRun.mk · none) (List.append_nil before).symm
  | next rounds r hon ih =>
    obtain ⟨hleft, parts, rfl, hrest⟩ := h.succ
    have hpart : u.part = ⟨r.roundTrace, .underway u.rested⟩ := part_of_goesOn hleft hon
    rw [Part.within_succ, hpart, Runner.runSteps_of_goesOn hon, conclude_behind,
      Part.within_behind]
    exact congrArg (ProcessRun.behind before) (ih hrest r.roundTrace)
  | cut rounds r hcut =>
    obtain ⟨hleft, parts, rfl, -⟩ := h.succ
    have hpart : u.part = ⟨r.roundTrace, .aborted .overflow⟩ := part_of_cut hleft hcut
    rw [Part.within_succ, hpart, Runner.runSteps_of_cut hcut,
      Part.within_of_isLast (Part.isLast_aborted _ _)]
    rfl
  | restart rounds r ho =>
    obtain ⟨hleft, parts, rfl, -⟩ := h.succ
    have hpart : u.part = _ := part_of_restart hleft ho
    rw [Part.within_succ, hpart, Runner.runSteps_of_restart ho, Part.within_behind,
      Part.within_of_isLast (Part.isLast_endedByReset _ _ _), ← Part.within_behind]
    rfl
  | failed rounds r cause ho =>
    obtain ⟨hleft, parts, rfl, -⟩ := h.succ
    have hpart : u.part = _ := part_of_failed hleft ho
    rw [Part.within_succ, hpart, Runner.runSteps_of_failed ho, Part.within_behind,
      Part.within_of_isLast (Part.isLast_endedByError _ _ _), ← Part.within_behind]
    rfl
  | aborted rounds r abort ho =>
    obtain ⟨hleft, parts, rfl, -⟩ := h.succ
    have hpart : u.part = _ := part_of_aborted hleft ho
    rw [Part.within_succ, hpart, Runner.runSteps_of_aborted ho,
      Part.within_of_isLast (Part.isLast_aborted _ _)]
    rfl

end Underway

/-! ## Whole processes -/

namespace Part

variable {device : δ}

/-- Behind a good setup, the first part leads to the rounds. -/
theorem first_of_done (h : (processRunner device).ensureReady.outcome = .done ())
    (limit : Option Nat) :
    let setup := (processRunner device).ensureReady
    first limit device = ⟨setup.trace, .underway ⟨setup.state.name, 0, limit, setup.state⟩⟩ := by
  intro setup
  rw [first, h]

theorem first_of_failed {e : RunError} (h : (processRunner device).ensureReady.outcome = .failed e)
    (limit : Option Nat) :
    let setup := (processRunner device).ensureReady
    first limit device = (endedByError limit.isSome setup.state e).behind setup.trace := by
  intro setup
  rw [first, h]

theorem first_of_aborted {abort : Abort}
    (h : (processRunner device).ensureReady.outcome = .aborted abort) (limit : Option Nat) :
    first limit device = ⟨(processRunner device).ensureReady.trace, .aborted abort⟩ := by
  rw [first, h]

/-- A limited process is done with its setup, one part for each of its steps, and one more. -/
theorem within_first_of_limit {limit parts : Nat} (h : limit < parts) (device : δ) :
    (first (some limit) device).within parts = boundedProcess limit device := by
  cases hs : (processRunner device).ensureReady.outcome with
  | done value =>
    rw [first_of_done hs, Underway.within_eq_conclude _ limit _ (.inl ⟨rfl, h⟩), boundedProcess,
      Runner.runFor_of_done hs]
    obtain ⟨outcome, state, trace⟩ :=
      Runner.runSteps _ limit (processRunner device).ensureReady.state
    cases outcome with
    | done report =>
      obtain ⟨steps, restart⟩ := report
      cases restart <;>
        simp [Underway.conclude, behind, within, closed, endedByReset, ProcessRun.behind,
          Runner.behind, Outcome.map, RunReport.after]
    | failed e =>
      simp [Underway.conclude, behind, within, failed, endedByError, ProcessRun.behind,
        Runner.behind, Outcome.map]
    | aborted abort => rfl
  | failed e =>
    rw [first_of_failed hs, boundedProcess, Runner.runFor_of_failed hs, within_behind,
      within_of_isLast (isLast_endedByError _ _ _)]
    rfl
  | aborted abort =>
    rw [first_of_aborted hs, boundedProcess, Runner.runFor_of_aborted hs,
      within_of_isLast (isLast_aborted _ _)]
    rfl

/-- An endless process leaves by what its run leaves by. -/
theorem endlessProcess_eq (budget : Nat) (device : δ) :
    endlessProcess budget device = (left ((processRunner device).run budget)).within 0 := by
  rw [endlessProcess, left]
  cases ((processRunner device).run budget).outcome with
  | done departure => rfl
  | failed e => cases e
  | aborted abort => rfl

/-- Behind rounds that end early a process without a limit has left as an endless run leaves, and
behind others it goes on as that does. -/
theorem begins_takeOver (u : Underway δ) (hleft : u.left = none) (budget : Nat)
    (rounds : Effect (Runner δ) RunError RunReport) :
    ((u.conclude rounds).within 0).Begins
      ((left (Runner.takeOver u.name budget rounds)).within 0) := by
  obtain ⟨name, taken, limit, r⟩ := u
  obtain rfl : limit = none := hleft
  obtain ⟨outcome, state, trace⟩ := rounds
  cases outcome with
  | done report =>
    obtain ⟨steps, restart⟩ := report
    cases restart with
    | true =>
      rw [Runner.takeOver, left_preceded]
      exact .refl _
    | false =>
      rw [Runner.takeOver, left_preceded, within_behind]
      refine ⟨List.prefix_append .., fun hexit => ?_⟩
      cases hexit
  | failed e =>
    rw [Runner.takeOver, left_preceded]
    exact .refl _
  | aborted abort => exact .refl _

/-- A process without a limit, observed for its setup and some rounds, does what an endless run
does. -/
theorem within_first_of_endless {parts budget : Nat} {device : δ}
    (hbudget : delayCalls ((processRunner device).calls parts) ≤ budget) :
    ((first none device).within parts).Begins (endlessProcess budget device) := by
  rw [endlessProcess_eq]
  cases hs : (processRunner device).ensureReady.outcome with
  | done value =>
    rw [Runner.run_eq_takeOver (.inl hbudget), Runner.runFor_of_done hs, Runner.takeOver_behind,
      left_preceded, within_behind, first_of_done hs,
      Underway.within_eq_conclude _ parts _ (.inr ⟨rfl, rfl⟩)]
    exact (begins_takeOver _ rfl _ _).behind _
  | failed e =>
    rw [Runner.run_of_failed hs, left_preceded, first_of_failed hs, within_behind, within_behind,
      within_of_isLast (isLast_endedByError _ _ _)]
    exact .refl _
  | aborted abort =>
    rw [Runner.run_of_aborted hs, first_of_aborted hs, within_of_isLast (isLast_aborted _ _)]
    exact .refl _

end Part

end Metronome
