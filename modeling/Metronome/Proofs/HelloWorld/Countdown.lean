import Metronome.Board.Scripted
import Metronome.Demo.HelloWorld
import Metronome.Proofs.Occasions
import Metronome.Proofs.Runner.Accounting
import Metronome.Proofs.Transcripts

/-!
# The countdown

A step prints the line that the countdown is at, and only when the whole line got through does the
countdown move on (`HelloWorld.step_apply`). So its place is the number of steps that ended well
since the last setup that did (`HelloWorld.countdownAt`), whatever failed in between.
-/

namespace Metronome

namespace HelloWorld

variable {β κ : Type}

/-! ## The parts of a step -/

/-- The line behind the countdown. -/
def restartLine : String := "Restarting now.\n"

/-- The pieces of the line that a step prints. -/
def line (h : HelloWorld β κ) : List String :=
  match h.countdown with
  | some n => countdownLine n
  | none => [restartLine]

/-- What a step answers when its line got through. -/
def answer (h : HelloWorld β κ) : Step :=
  match h.countdown with
  | some _ => .next
  | none => .restart

/-- The driver with its console transcribed, from now on. -/
def observed (h : HelloWorld β κ) : HelloWorld β (Transcribed κ) :=
  { h with console := ⟨h.console, []⟩ }

/-- The driver without the transcript. -/
def plain (h : HelloWorld β (Transcribed κ)) : HelloWorld β κ :=
  { h with console := h.console.console }

section Step

variable [Console κ] (now : Nat) (h : HelloWorld β κ)

/-- What printing the line of a step comes to. -/
def printing : Effect κ DriverError Unit := Console.print h.line now h.console

/-- The driver behind a step: the countdown moves on when the whole line got through. -/
def counted : HelloWorld β κ :=
  { h with
    console := (h.printing now).state
    countdown := if (h.printing now).outcome.isDone then h.countdown.bind countedDown
      else h.countdown }

/-- A step prints its line. When all of the line got through, it answers and the countdown moves
on. -/
theorem step_apply :
    step now h = ⟨(h.printing now).outcome.map fun () => h.answer, h.counted now,
      (h.printing now).trace⟩ := by
  unfold step counted printing line answer
  rw [Act.bind_apply]
  simp only [Act.get]
  cases hcountdown : h.countdown with
  | some n =>
    simp only [Act.bind_apply, useConsole, Act.on]
    cases (Console.print (countdownLine n) now h.console).outcome with
    | done value => simp [Act.modify, Outcome.map, Outcome.isDone]
    | failed e => simp [Outcome.map, Outcome.isDone, hcountdown]
    | aborted abort => simp [Outcome.map, Outcome.isDone, hcountdown]
  | none =>
    simp only [Act.bind_apply, useConsole, Act.on]
    have hline : (["Restarting now.\n"] : List String) = [restartLine] := rfl
    rw [hline]
    cases (Console.print [restartLine] now h.console).outcome with
    | done value => simp [Outcome.map, Outcome.isDone, hcountdown]
    | failed e => simp [Outcome.map, Outcome.isDone, hcountdown]
    | aborted abort => simp [Outcome.map, Outcome.isDone, hcountdown]

theorem isDone_step : (step now h).outcome.isDone = (h.printing now).outcome.isDone := by
  rw [step_apply, Outcome.isDone_map]

/-- The countdown moves on exactly when a step ends well. -/
theorem countdown_step :
    (step now h).state.countdown =
      if (step now h).outcome.isDone then h.countdown.bind countedDown else h.countdown := by
  rw [isDone_step, step_apply]
  rfl

end Step

/-! ## What is printed -/

section Printed

variable [Console κ]

/-- The text that a call prints. -/
def printed [Board β] (o : Occasion (HelloWorld β κ)) : String :=
  let e := (⟨o.driver.observed, o.use⟩ : Occasion (HelloWorld β (Transcribed κ))).effect
  String.join e.state.console.texts

variable (now : Nat) (h : HelloWorld β κ)

/-- A transcript makes no difference to a step. -/
theorem plain_step (w : HelloWorld β (Transcribed κ)) :
    (step now w).mapState plain = step now w.plain := by
  have hprint : (w.printing now).mapState Transcribed.console = w.plain.printing now :=
    Transcribed.mapState_print now w.line w.console
  rw [step_apply, step_apply]
  unfold counted
  rw [← hprint]
  rfl

/-- A step prints a beginning of its line; it ends well exactly when that is the whole line. -/
theorem printed_step [Board β] :
    ∃ taken, taken <+: h.line ∧ printed ⟨h, .step now⟩ = String.join taken ∧
      ((step now h).outcome.isDone ↔ taken = h.line) := by
  obtain ⟨taken, hprefix, htexts, hiff⟩ :=
    Transcribed.texts_print_prefix now h.line (⟨h.console, []⟩ : Transcribed κ)
  refine ⟨taken, hprefix, ?_, ?_⟩
  · show String.join (step now h.observed).state.console.texts = String.join taken
    rw [step_apply]
    exact congrArg String.join htexts
  · have hplain : (step now h.observed).outcome = (step now h).outcome :=
      congrArg Effect.outcome (plain_step now h.observed)
    rw [← hplain, isDone_step, Outcome.isDone_iff]
    exact hiff

theorem printed_of_isDone [Board β] (hdone : (step now h).outcome.isDone) :
    printed ⟨h, .step now⟩ = String.join h.line := by
  obtain ⟨taken, -, hprinted, hiff⟩ := printed_step now h
  rw [hprinted, hiff.mp hdone]

theorem join_countdownLine (n : Nat) :
    String.join (countdownLine n) = s!"Restarting in {n} seconds...\n" := by
  simp only [countdownLine, String.join_cons, String.join_nil, String.append_empty,
    ← String.append_assoc]
  rfl

/-- No beginning of a line of the countdown reads like the line of the restart. -/
theorem join_ne_restartLine {n : Nat} {taken : List String} (h : taken <+: countdownLine n) :
    String.join taken ≠ restartLine := by
  rcases List.prefix_cons_iff.mp h with rfl | ⟨rest, rfl, -⟩
  · decide
  · -- The two texts part at the twelfth letter.
    rw [String.join_cons]
    intro heq
    have hlists := congrArg String.toList heq
    rw [String.toList_append] at hlists
    have hletters := congrArg (fun letters => letters[11]?) hlists
    rw [List.getElem?_append_left (by decide)] at hletters
    revert hletters
    decide

/-- A reset is asked for by the steps that print the line of the restart, and by no others. -/
theorem restart_iff_printed [Board β] :
    (step now h).outcome = .done .restart ↔ printed ⟨h, .step now⟩ = restartLine := by
  obtain ⟨taken, hprefix, hprinted, hiff⟩ := printed_step now h
  have hanswer : (step now h).outcome = .done .restart ↔
      (step now h).outcome.isDone ∧ h.answer = .restart := by
    rw [step_apply]
    cases (h.printing now).outcome <;> simp [Outcome.map, Outcome.isDone]
  rw [hprinted, hanswer, hiff]
  unfold line answer at *
  cases hcountdown : h.countdown with
  | some n =>
    rw [hcountdown] at hprefix
    constructor
    · rintro ⟨-, hrestart⟩
      cases hrestart
    · intro hread
      exact absurd hread (join_ne_restartLine hprefix)
  | none =>
    rw [hcountdown] at hprefix
    refine ⟨fun hwhole => by rw [hwhole.1]; rfl, fun hread => ⟨?_, rfl⟩⟩
    obtain rfl | ⟨rest, rfl, hrest⟩ := List.prefix_cons_iff.mp hprefix
    · exact absurd hread (by decide)
    · rw [List.prefix_nil.mp hrest]

end Printed

/-! ## The place of the countdown -/

/-- The countdown after some steps that ended well. -/
def countdownAt (n : Nat) : Option Nat :=
  if n ≤ countdownStart then some (countdownStart - n) else none

/-- The line of the step with `n` steps before it since the setup. -/
def lineAt (n : Nat) : String :=
  if n ≤ countdownStart then s!"Restarting in {countdownStart - n} seconds...\n" else restartLine

/-- The answer of the step with `n` steps before it since the setup. -/
def answerAt (n : Nat) : Step := if n ≤ countdownStart then .next else .restart

theorem countedDown_countdownAt (n : Nat) :
    (countdownAt n).bind countedDown = countdownAt (n + 1) := by
  unfold countdownAt
  by_cases hlast : n = countdownStart
  · -- Zero is a line of its own, and there is no number below it.
    subst hlast
    simp [countedDown]
  · by_cases hle : n ≤ countdownStart
    · obtain ⟨k, hk⟩ : ∃ k, countdownStart - n = k + 1 := ⟨countdownStart - n - 1, by omega⟩
      have hle' : n + 1 ≤ countdownStart := by omega
      have hk' : countdownStart - (n + 1) = k := by omega
      simp [hle, hle', hk, hk', countedDown]
    · have hle' : ¬ n + 1 ≤ countdownStart := by omega
      simp [hle, hle']

section CountdownAt

variable {n : Nat} {h : HelloWorld β κ} (hplace : h.countdown = countdownAt n)
include hplace

theorem answer_of_place : h.answer = answerAt n := by
  unfold answer answerAt
  by_cases hle : n ≤ countdownStart
  · simp [hplace, countdownAt, hle]
  · simp [hplace, countdownAt, hle]

theorem line_of_place : String.join h.line = lineAt n := by
  unfold line lineAt
  by_cases hle : n ≤ countdownStart
  · simp only [hplace, countdownAt, hle, if_true]
    exact join_countdownLine _
  · simp only [hplace, countdownAt, hle, if_false]
    rfl

end CountdownAt

section Calls

variable [Board β] [Console κ]

theorem countdown_setUp (now : Nat) (h : HelloWorld β κ) :
    (setUp now h).state.countdown =
      if (setUp now h).outcome.isDone then some countdownStart else h.countdown := by
  refine Act.bind_settles (fun _ => rfl) (fun _ => ?_) h
  refine Act.bind_settles (fun _ => rfl) fun _ => ?_
  refine Act.bind_settles (fun _ => rfl) fun _ => ?_
  refine Act.bind_settles (fun _ => rfl) fun _ => ?_
  refine Act.bind_settles (fun _ => ?_) fun _ => ?_
  · rw [Act.sure_apply]
    rfl
  · exact Act.bind_settles (fun _ => rfl) fun _ _ => rfl

/-- The countdown is told by the number of steps since the setup. -/
theorem tracks_countdown : Tracks fun n (h : HelloWorld β κ) => h.countdown = countdownAt n where
  setUp {n h} hplace now := by
    show (setUp now h).state.countdown = countdownAt (if (setUp now h).outcome.isDone then 0 else n)
    rw [countdown_setUp]
    split
    · rfl
    · exact hplace
  step {n h} hplace now := by
    show (step now h).state.countdown =
      countdownAt (if (step now h).outcome.isDone then n + 1 else n)
    rw [countdown_step, hplace, countedDown_countdownAt]
    split <;> rfl

theorem place_of_setUp {now : Nat} {h : HelloWorld β κ}
    (hdone : (Driver.setUp now h).outcome = .done ()) :
    (Driver.setUp now h).state.countdown = countdownAt 0 := by
  have hcountdown := countdown_setUp now h
  rw [show (setUp now h).outcome = .done () from hdone] at hcountdown
  exact hcountdown

/-- What the steps that end well print and answer is told by their place. -/
theorem seen_of_place {n now : Nat} {h : HelloWorld β κ} (hplace : h.countdown = countdownAt n)
    (hdone : (Driver.step now h).outcome.isDone) :
    printed ⟨h, .step now⟩ = lineAt n ∧
      (⟨h, .step now⟩ : Occasion (HelloWorld β κ)).effect.outcome = .done (some (answerAt n)) := by
  have hprinting : (h.printing now).outcome = .done () :=
    Outcome.isDone_iff.mp ((isDone_step now h).symm.trans hdone)
  constructor
  · rw [printed_of_isDone now h hdone, line_of_place hplace]
  · show (step now h).outcome.map some = .done (some (answerAt n))
    rw [step_apply, hprinting, ← answer_of_place hplace]
    rfl

/-- After fewer than all lines there is no reset. -/
theorem lines_before_restart {n now : Nat} {h : HelloWorld β κ}
    (hplace : h.countdown = countdownAt n) (hrestart : (step now h).outcome = .done .restart) :
    countdownStart < n := by
  have hdone : (step now h).outcome.isDone := by
    rw [hrestart]
    rfl
  have hanswer := (seen_of_place hplace hdone).2
  change (step now h).outcome.map some = .done (some (answerAt n)) at hanswer
  rw [hrestart, answerAt] at hanswer
  by_contra hle
  rw [if_pos (by omega)] at hanswer
  cases hanswer

section Uses

variable {h : HelloWorld β κ} (hplace : h.countdown = countdownAt 0) (uses : List DriverUse)
include hplace

/-- The steps since the setup print the lines of the countdown in order, and answer in order. -/
theorem map_seen_stepsSinceSetUp :
    (stepsSinceSetUp uses h).map (fun o => (printed o, o.effect.outcome)) =
      (List.range (progress uses h)).map fun n => (lineAt n, .done (some (answerAt n))) :=
  map_stepsSinceSetUp tracks_countdown
    (fun hplace hdone => Prod.ext_iff.mpr (seen_of_place hplace hdone)) hplace uses

theorem map_printed_stepsSinceSetUp :
    (stepsSinceSetUp uses h).map printed = (List.range (progress uses h)).map lineAt := by
  have hfirst := congrArg (List.map Prod.fst) (map_seen_stepsSinceSetUp hplace uses)
  rw [List.map_map, List.map_map] at hfirst
  exact hfirst

/-- When a reset is asked for, all lines of the countdown have been printed. -/
theorem lines_printed_before_restart {now : Nat}
    (hrestart : (Driver.step now (afterUses uses h)).outcome = .done .restart) :
    (List.range (countdownStart + 1)).map lineAt <+: (stepsSinceSetUp uses h).map printed := by
  have hend := holds_at_progress tracks_countdown hplace uses
  have hlines := lines_before_restart hend hrestart
  rw [map_printed_stepsSinceSetUp hplace uses]
  refine List.IsPrefix.map lineAt (List.prefix_iff_eq_take.mpr ?_)
  rw [List.length_range, List.take_range, Nat.min_eq_left hlines]

end Uses

theorem countdown_of_use (o : Occasion (HelloWorld β κ)) :
    (o.setsUp → o.effect.state.countdown = some countdownStart) ∧
      (¬ o.effect.outcome.isDone → o.effect.state.countdown = o.driver.countdown) := by
  obtain ⟨h, use⟩ := o
  cases use with
  | setUp now =>
    have hcountdown : (Driver.setUp now h).state.countdown = _ := countdown_setUp now h
    refine ⟨fun hsets => ?_, fun hfails => ?_⟩
    · rw [Occasion.setsUp_setUp] at hsets
      exact hcountdown.trans (if_pos hsets)
    · rw [Occasion.effect, Outcome.isDone_map] at hfails
      exact hcountdown.trans (if_neg hfails)
  | step now =>
    refine ⟨fun hsets => ?_, fun hfails => ?_⟩
    · rw [Occasion.setsUp_step] at hsets
      cases hsets
    · rw [Occasion.effect, Outcome.isDone_map] at hfails
      exact (countdown_step now h).trans (if_neg hfails)

/-! ## On a console that takes everything -/

/-- The driver at some place of the countdown, on a console that takes everything. -/
structure Unhindered (n : Nat) (h : HelloWorld β κ) : Prop where
  place : h.countdown = countdownAt n
  takesAll : Console.TakesAll h.console

theorem takesAll_setUp (now : Nat) (h : HelloWorld β κ) (hopen : Console.TakesAll h.console) :
    Console.TakesAll (setUp now h).state.console := by
  have hprint (pieces : List String) (h : HelloWorld β κ) (hopen : Console.TakesAll h.console) :
      Console.TakesAll (useConsole (Console.print pieces) now h).state.console :=
    (hopen.print now pieces).2
  refine Act.bind_preserves (P := fun h : HelloWorld β κ => Console.TakesAll h.console)
    (fun _ => id) (fun _ => ?_) h hopen
  refine Act.bind_preserves (hprint _) fun _ => ?_
  refine Act.bind_preserves (fun _ => id) fun _ => ?_
  refine Act.bind_preserves (hprint _) fun _ => ?_
  refine Act.bind_preserves (fun h hopen => ?_) fun _ => ?_
  · rw [Act.sure_apply]
    exact hopen
  · exact Act.bind_preserves (hprint _) fun _ _ => id

namespace Unhindered

variable {n : Nat}

theorem setUp {now : Nat} {h : HelloWorld β κ} (hdone : (Driver.setUp now h).outcome = .done ())
    (hopen : Console.TakesAll h.console) : Unhindered 0 (Driver.setUp now h).state := by
  exact ⟨place_of_setUp hdone, takesAll_setUp now h hopen⟩

theorem step {h : HelloWorld β κ} (hfree : h.Unhindered n) (now : Nat) :
    (Driver.step now h).outcome = .done (answerAt n) ∧
      (Driver.step now h).state.Unhindered (n + 1) := by
  obtain ⟨htaken, hopen⟩ := hfree.takesAll.print now h.line
  have hprinting : (h.printing now).outcome = .done () := htaken
  have hdone : (HelloWorld.step now h).outcome.isDone := by
    rw [isDone_step, hprinting]
    rfl
  have houtcome : (HelloWorld.step now h).outcome = .done (answerAt n) := by
    rw [step_apply, hprinting, ← answer_of_place hfree.place]
    rfl
  refine ⟨houtcome, ?_, ?_⟩
  · show (HelloWorld.step now h).state.countdown = countdownAt (n + 1)
    rw [countdown_step, if_pos hdone, hfree.place, countedDown_countdownAt]
  · show Console.TakesAll (HelloWorld.step now h).state.console
    rw [step_apply]
    exact hopen

variable {r : Runner (HelloWorld β κ)}

/-- The second behind a step is one delay call. -/
theorem length_pace (r : Runner (HelloWorld β κ)) : r.counted.pace.length = 1 := by
  have hone : helloWorldCadence.delays.length = 1 := by decide +kernel
  exact hone

/-- On an open console, each round before the last line goes on if its delay call does. -/
theorem goesOn (hfree : r.device.Unhindered n) (hline : n ≤ countdownStart)
    (hroom : r.clock.Allows 1) : r.GoesOn := by
  have houtcome : r.taken.outcome = .done (answerAt n) := (hfree.step r.clock.now).1
  rw [answerAt, if_pos hline] at houtcome
  exact ⟨houtcome, hroom⟩

theorem rested (hfree : r.device.Unhindered n) (hon : r.GoesOn) :
    r.rested.device.Unhindered (n + 1) ∧ r.rested.clock.now = r.clock.now + 1000000 :=
  ⟨(hfree.step r.clock.now).2, Runner.now_rested hon⟩

/-- By the steps that are left: each line brings the countdown one place further, and the reset
behind the last one ends the run. -/
theorem runSteps (name : String) (limit : Nat) (hfree : r.device.Unhindered n)
    (hle : n ≤ countdownStart + 1) (hroom : r.clock.Allows (min limit (countdownStart + 1 - n))) :
    let run := Runner.runSteps name limit r
    run.outcome =
        .done ⟨min limit (countdownStart + 2 - n), decide (countdownStart + 2 ≤ n + limit)⟩ ∧
      run.state.clock.now = r.clock.now + min limit (countdownStart + 1 - n) * 1000000 := by
  intro run
  induction limit generalizing n r with
  | zero =>
    have hbelow : ¬ countdownStart + 2 ≤ n := by omega
    simp [run, hbelow]
  | succ limit ih =>
    by_cases hline : n ≤ countdownStart
    · have hslept : 1 + min limit (countdownStart + 1 - (n + 1)) =
          min (limit + 1) (countdownStart + 1 - n) := by omega
      have hon := hfree.goesOn hline (hroom.mono (by omega))
      obtain ⟨hnext, hnow⟩ := hfree.rested hon
      have hrestRoom : r.rested.clock.Allows (min limit (countdownStart + 1 - (n + 1))) := by
        rw [Runner.allows_rested hon, length_pace, hslept]
        exact hroom
      obtain ⟨hrest, htime⟩ := ih hnext (by omega) hrestRoom
      have hrun : run = _ := Runner.runSteps_of_goesOn hon
      rw [hrun]
      constructor
      · rw [Runner.behind, hrest]
        have hsteps : min limit (countdownStart + 2 - (n + 1)) + 1 =
            min (limit + 1) (countdownStart + 2 - n) := by omega
        have hreset : n + 1 + limit = n + (limit + 1) := by omega
        simp only [Outcome.map, RunReport.after, hsteps, hreset]
      · rw [Runner.behind, htime, hnow, ← hslept]
        omega
    · have houtcome : r.taken.outcome = .done (answerAt n) := (hfree.step r.clock.now).1
      rw [answerAt, if_neg hline] at houtcome
      have hrun : run = _ := Runner.runSteps_of_restart houtcome
      have hlast : n = countdownStart + 1 := by omega
      have hsteps : min (limit + 1) (countdownStart + 2 - n) = 1 := by omega
      have hreset : countdownStart + 2 ≤ n + (limit + 1) := by omega
      rw [hrun, hsteps, decide_eq_true hreset, hlast, Nat.sub_self, Nat.min_zero, Nat.zero_mul]
      exact ⟨rfl, rfl⟩

/-- With more seconds to sleep than the clock can count, the program ends. -/
theorem overflows (name : String) (limit : Nat) (hfree : r.device.Unhindered n)
    (hle : n ≤ countdownStart + 1)
    (hfull : ¬ r.clock.Allows (min limit (countdownStart + 1 - n))) :
    (Runner.runSteps name limit r).outcome = .aborted .overflow := by
  induction limit generalizing n r with
  | zero => exact absurd (by rw [Nat.zero_min]; exact r.clock.allows_zero) hfull
  | succ limit ih =>
    have hline : n ≤ countdownStart := by
      refine Nat.le_of_not_lt fun hlast => hfull ?_
      rw [show countdownStart + 1 - n = 0 by omega, Nat.min_zero]
      exact r.clock.allows_zero
    have hslept : 1 + min limit (countdownStart + 1 - (n + 1)) =
        min (limit + 1) (countdownStart + 1 - n) := by omega
    by_cases hone : r.clock.Allows 1
    · have hon := hfree.goesOn hline hone
      obtain ⟨hnext, -⟩ := hfree.rested hon
      have hrestFull : ¬ r.rested.clock.Allows (min limit (countdownStart + 1 - (n + 1))) := by
        rw [Runner.allows_rested hon, length_pace, hslept]
        exact hfull
      rw [Runner.runSteps_of_goesOn hon, Runner.behind, ih hnext (by omega) hrestFull]
      rfl
    · have houtcome : r.taken.outcome = .done (answerAt n) := (hfree.step r.clock.now).1
      rw [answerAt, if_pos hline] at houtcome
      rw [Runner.runSteps_of_cut ⟨houtcome, hone⟩]

/-- A bounded run of an unhindered driver: its steps and its seconds, unless the delay calls give
out first. -/
theorem runFor (hpending : r.ready = false) (hsetUp : r.prepared.outcome = .done ())
    (hopen : Console.TakesAll r.device.console) (limit : Nat) :
    (r.clock.Allows (min limit (countdownStart + 1)) →
      (r.runFor limit).outcome =
        .done ⟨min limit (countdownStart + 2), decide (countdownStart + 2 ≤ limit)⟩ ∧
      (r.runFor limit).state.clock.now =
        r.clock.now + min limit (countdownStart + 1) * 1000000) ∧
    (¬ r.clock.Allows (min limit (countdownStart + 1)) →
      (r.runFor limit).outcome = .aborted .overflow) := by
  have hfree : r.readied.device.Unhindered 0 := Unhindered.setUp hsetUp hopen
  rw [Runner.runFor_of_prepared hpending hsetUp, Runner.behind]
  constructor
  · intro hroom
    obtain ⟨houtcome, htime⟩ := hfree.runSteps r.readied.name limit (Nat.zero_le _) hroom
    rw [Nat.zero_add, Nat.sub_zero] at houtcome
    rw [houtcome, htime]
    exact ⟨rfl, rfl⟩
  · intro hfull
    rw [hfree.overflows r.readied.name limit (Nat.zero_le _) hfull]
    rfl

end Unhindered

end Calls

/-- Whatever the console refuses, and however setups and steps are mixed after a setup that ended
well: the steps that end well since the last setup that did print the lines from 10 down to 0 in
order and after them the line of the restart only; a call that does not end well leaves the
countdown, and a setup that does starts it again from 10; a step asks for a reset exactly when it
prints the line of the restart, and not before all eleven lines are printed in full. On a console
that takes everything, a bounded run of a fresh runner takes as many steps as it may but no more
than 12, asks for a reset with the twelfth and sleeps for a second after each of the others, or ends
the program if the clock cannot count these seconds. -/
theorem counts_down_in_order [Board β] [Console κ] (hello : HelloWorld β κ) (start : Nat)
    (hsetUp : (Driver.setUp start hello).outcome = .done ()) :
    let ready := (Driver.setUp start hello).state
    let countdownLines := (List.range 11).map fun i => s!"Restarting in {10 - i} seconds...\n"
    (∀ uses,
      (stepsSinceSetUp uses ready).map (fun o => (printed o, o.effect.outcome)) =
        (List.range (progress uses ready)).map (fun i =>
          if i ≤ 10 then (s!"Restarting in {10 - i} seconds...\n", .done (some .next))
          else ("Restarting now.\n", .done (some .restart))) ∧
      (∀ now, (Driver.step now (afterUses uses ready)).outcome = .done .restart →
        countdownLines <+: (stepsSinceSetUp uses ready).map printed) ∧
      ∀ o ∈ occasions uses ready,
        (o.setsUp → o.effect.state.countdown = some 10) ∧
        (¬ o.effect.outcome.isDone → o.effect.state.countdown = o.driver.countdown) ∧
        ∀ now, o.use = .step now →
          (o.effect.outcome = .done (some .restart) ↔ printed o = "Restarting now.\n")) ∧
    ∀ r : Runner (HelloWorld β κ), r.Fresh → r.device = hello → r.clock.now = start →
      Console.TakesAll hello.console → ∀ limit,
        (r.clock.Allows (min limit 11) →
          (r.runFor limit).outcome = .done ⟨min limit 12, decide (12 ≤ limit)⟩ ∧
          (r.runFor limit).state.clock.now = start + min limit 11 * 1000000) ∧
        (¬ r.clock.Allows (min limit 11) →
          (r.runFor limit).outcome = .aborted .overflow) := by
  intro ready countdownLines
  have hready : ready.countdown = countdownAt 0 := place_of_setUp hsetUp
  refine ⟨fun uses => ⟨?_, fun now hrestart => ?_, fun o _ => ?_⟩, ?_⟩
  · rw [map_seen_stepsSinceSetUp hready uses]
    refine List.map_congr_left fun i _ => ?_
    unfold lineAt answerAt countdownStart
    by_cases hle : i ≤ 10
    · simp only [hle, if_true]
    · simp only [hle, if_false]
      rfl
  · have hlines := lines_printed_before_restart hready uses hrestart
    have heq : countdownLines = (List.range (countdownStart + 1)).map lineAt := by
      refine List.map_congr_left fun i hi => ?_
      have hle : i ≤ countdownStart := Nat.le_of_lt_succ (List.mem_range.mp hi)
      exact (if_pos hle).symm
    rwa [heq]
  · obtain ⟨hsets, hfails⟩ := countdown_of_use o
    refine ⟨hsets, hfails, fun now huse => ?_⟩
    obtain ⟨h, use⟩ := o
    cases huse
    have hanswer : (⟨h, .step now⟩ : Occasion (HelloWorld β κ)).effect.outcome =
        .done (some .restart) ↔ (step now h).outcome = .done .restart := by
      show (step now h).outcome.map some = .done (some .restart) ↔ _
      rw [Outcome.map_eq_done]
      simp
    rw [hanswer]
    exact restart_iff_printed now h
  · intro r hfresh hdevice hnow hopen limit
    subst hdevice hnow
    exact Unhindered.runFor hfresh.pending hsetUp hopen limit

/-- A driver on a console that refuses the middle of its second line and then the greeting of the
next setup. -/
def flakyHello : HelloWorld QuietBoard PlannedConsole where
  board := {}
  console := { failWrites := .ofList [17, 18] }

/-- A runner on a quiet board, with a console that takes everything. -/
def quietRunner : Runner (HelloWorld QuietBoard BoundedConsole) where
  device := { board := {}, console := {} }
  system := .noting "probe"

/-- The second line and the setup behind it fail, so the two steps that end well print the first two
lines of the countdown. A runner on a console that takes everything is through after twelve of
twenty steps. -/
theorem flaky_counts_down :
    (Driver.setUp 0 flakyHello).outcome = .done () ∧
    (stepsSinceSetUp [.step 1, .step 2, .setUp 3, .step 4]
        (Driver.setUp 0 flakyHello).state).map (fun o => (printed o, o.effect.outcome)) =
      [("Restarting in 10 seconds...\n", .done (some .next)),
        ("Restarting in 9 seconds...\n", .done (some .next))] ∧
    (Driver.setUp 0 quietRunner.device).outcome = .done () ∧
    quietRunner.Fresh ∧ Console.TakesAll quietRunner.device.console ∧
    quietRunner.clock.Allows (min 20 11) ∧ (quietRunner.runFor 20).outcome = .done ⟨12, true⟩ ∧
    (quietRunner.runFor 20).state.clock.now = 11000000 := by
  have hflaky : (Driver.setUp 0 flakyHello).outcome = .done () := rfl
  have hquiet : (Driver.setUp 0 quietRunner.device).outcome = .done () := by decide +kernel
  have hprogress : progress [.step 1, .step 2, .setUp 3, .step 4]
      (Driver.setUp 0 flakyHello).state = 2 := by decide +kernel
  have hfresh : quietRunner.Fresh := ⟨rfl, rfl⟩
  have hopen : Console.TakesAll quietRunner.device.console := BoundedConsole.takesAll rfl
  obtain ⟨hlines, -⟩ := (counts_down_in_order flakyHello 0 hflaky).1
    [.step 1, .step 2, .setUp 3, .step 4]
  have hroom : quietRunner.clock.Allows (min 20 11) := Clock.allows_of_wraps rfl _
  obtain ⟨houtcome, htime⟩ := ((counts_down_in_order quietRunner.device 0 hquiet).2 quietRunner
    hfresh rfl rfl hopen 20).1 hroom
  rw [show progress _ _ = 2 from hprogress] at hlines
  exact ⟨hflaky, hlines, hquiet, hfresh, hopen, hroom, houtcome, htime⟩

end HelloWorld

end Metronome
