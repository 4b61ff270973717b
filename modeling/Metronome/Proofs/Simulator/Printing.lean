import Metronome.Proofs.Console.Stopping
import Metronome.Proofs.HelloWorld.Countdown
import Metronome.Proofs.Pin.Agreement
import Metronome.Proofs.Runner.Departing
import Metronome.Proofs.Simulator.Demos

/-!
# What the simulator prints

A demo that is allowed more steps prints what it prints with fewer, and then goes on
(`demoProcess_longer`). The countdown comes to an end by itself: its lines are printed one by one
(`HelloWorld.Audible.runSteps`), and from the step on that asks for a restart it does not matter
whether the steps are limited at all.
-/

namespace Metronome

/-! ## Processes -/

section Processes

variable {δ : Type} [Driver δ] {P : δ → Prop}

theorem boundedProcess_of_done {device : δ} {limit : Nat} {report : RunReport}
    (h : ((processRunner device).runFor limit).outcome = .done report) :
    boundedProcess limit device =
      ⟨((processRunner device).runFor limit).trace ++ [report.closing], some 0⟩ := by
  rw [boundedProcess, h]

theorem endlessProcess_of_done {device : δ} {budget : Nat} {departure : Departure}
    (h : ((processRunner device).run budget).outcome = .done departure) :
    endlessProcess budget device =
      ⟨((processRunner device).run budget).trace, departure.exit?⟩ := by
  rw [endlessProcess, h]

/-- The record that closes a run is none of the text of the demo. -/
theorem printed_closing (trace : Trace) (report : RunReport) :
    Trace.printed (trace ++ [report.closing]) = trace.printed := by
  have hclosing : Trace.printed [report.closing] = "" := by
    obtain ⟨steps, restartRequested⟩ := report
    cases restartRequested <;> rfl
  rw [Trace.printed_append, hclosing, String.append_empty]

/-- A demo that never fails ends well and prints in the process what it prints in the run. -/
theorem Driver.Safe.process (h : Driver.Safe P) {device : δ} (hd : P device) (limit : Nat) :
    (boundedProcess limit device).exit = some 0 ∧
      (boundedProcess limit device).trace.printed =
        ((processRunner device).runFor limit).trace.printed := by
  obtain ⟨report, hreport⟩ := h.runFor (r := processRunner device) rfl hd
    (Clock.allows_of_wraps rfl) limit
  rw [boundedProcess_of_done hreport]
  exact ⟨rfl, printed_closing ..⟩

/-- A process of more steps prints what one of fewer steps prints, and goes on. -/
theorem Driver.Safe.longer (h : Driver.Safe P) {device : δ} (hd : P device) {n m : Nat}
    (hle : n ≤ m) :
    (boundedProcess n device).exit = some 0 ∧
    (boundedProcess m device).exit = some 0 ∧
    ∃ rest, (boundedProcess m device).trace.printed =
      (boundedProcess n device).trace.printed ++ rest := by
  obtain ⟨hexit, hprinted⟩ := h.process hd n
  obtain ⟨hexit', hprinted'⟩ := h.process hd m
  refine ⟨hexit, hexit', ?_⟩
  rw [hprinted, hprinted']
  exact Trace.printed_of_prefix (Runner.trace_runFor_prefix _ hle)

end Processes

theorem demoProcess_longer {n m : Nat} (hle : n ≤ m) (demo : Demo) (budget budget' : Nat)
    (fast fast' : Bool) :
    let shorter := demoProcess {} budget ⟨demo, some n, fast⟩
    let longer := demoProcess {} budget' ⟨demo, some m, fast'⟩
    shorter.exit = some 0 ∧ longer.exit = some 0 ∧
      ∃ rest, longer.trace.printed = shorter.trace.printed ++ rest := by
  cases demo with
  | blink => exact (Blink.safe LoggedPin.shows).longer trivial hle
  | blinkToggle => exact (Blink.safe LoggedPin.shows).longer trivial hle
  | wifiScan => exact WifiScan.safe.longer rfl hle
  | rgbCycle =>
    have hdisplayed : RgbCycle.Displayed (simulatedCycle {}) := ⟨⟨Nat.one_pos, rfl⟩, rfl⟩
    exact RgbCycle.safe.longer hdisplayed hle
  | helloWorld => exact HelloWorld.safe.longer rfl hle

/-! ## The countdown -/

namespace HelloWorld

variable {β : Type} {n : Nat} {h : HelloWorld β OutputStream}

/-- The driver at some place of the countdown, on an output that takes everything. -/
structure Audible (n : Nat) (h : HelloWorld β OutputStream) : Prop where
  place : h.countdown = countdownAt n
  isOpen : h.console.full = false

theorem Audible.unhindered (hn : h.Audible n) : h.Unhindered n :=
  ⟨hn.place, OutputStream.takesAll hn.isOpen⟩

variable [Board β]

/-- Each step of an audible greeting prints its line. -/
theorem Audible.step (hn : h.Audible n) (now : Nat) :
    (Driver.step now h).state.Audible (n + 1) ∧
      (Driver.step now h).trace.printed = lineAt n := by
  obtain ⟨-, hnext⟩ := hn.unhindered.step now
  have hstate : (h.printing now).state = h.console :=
    (OutputStream.print_of_open hn.isOpen now h.line).2
  have hprinted : (h.printing now).trace.printed = String.join h.line :=
    OutputStream.printed_of_open hn.isOpen now h.line
  refine ⟨⟨hnext.place, ?_⟩, ?_⟩
  · show (HelloWorld.step now h).state.console.full = false
    rw [step_apply]
    show (h.printing now).state.full = false
    rw [hstate, hn.isOpen]
  · show (HelloWorld.step now h).trace.printed = lineAt n
    rw [step_apply, hprinted, line_of_place hn.place]

/-- Each step prints the line of its place. The induction is on the steps that are left, for all
places up to the last, since each step moves on by one. -/
theorem Audible.printed_runSteps (name : String) (limit : Nat)
    {r : Runner (HelloWorld β OutputStream)} (hn : r.device.Audible n)
    (hle : n ≤ countdownStart + 1) (hroom : ∀ n, r.clock.Allows n) :
    (Runner.runSteps name limit r).trace.printed =
      String.join ((List.range' n (min limit (countdownStart + 2 - n))).map lineAt) := by
  induction limit generalizing n r with
  | zero =>
    rw [Nat.zero_min]
    rfl
  | succ limit ih =>
    obtain ⟨hnext, hprinted⟩ := hn.step r.clock.now
    by_cases hline : n ≤ countdownStart
    · have hon : r.GoesOn := hn.unhindered.goesOn hline (hroom 1)
      have hrested : ∀ n, r.rested.clock.Allows n := fun n =>
        (Runner.allows_rested hon n).mpr (hroom _)
      have hround : r.roundTrace.printed = lineAt n := by
        rw [Runner.roundTrace, Runner.slept_of_allows hon.room, Trace.printed_append,
          Trace.printed_delays, String.append_empty]
        exact hprinted
      have hsteps : min (limit + 1) (countdownStart + 2 - n) =
          min limit (countdownStart + 2 - (n + 1)) + 1 := by omega
      rw [Runner.runSteps_of_goesOn hon, Runner.behind, Trace.printed_append, hround,
        ih hnext (by omega) hrested, hsteps, List.range'_succ, List.map_cons, String.join_cons]
    · have houtcome : r.taken.outcome = .done (answerAt n) := (hn.unhindered.step r.clock.now).1
      rw [answerAt, if_neg hline] at houtcome
      have hsteps : min (limit + 1) (countdownStart + 2 - n) = 1 := by omega
      rw [Runner.runSteps_of_restart houtcome, hsteps]
      show (Driver.step r.clock.now r.device).trace.printed = _
      rw [hprinted, List.range'_one, List.map_singleton, String.join_cons, String.join_nil,
        String.append_empty]

end HelloWorld

/-! ## The greeting of the simulator -/

section Greeting

variable (n : Nat)

/-- The run of the simulator's greeting comes to its end with the twelfth step. -/
theorem runFor_simulatedHello :
    let run := (processRunner (simulatedHello {})).runFor n
    run.outcome = .done ⟨min n 12, decide (12 ≤ n)⟩ ∧
    run.trace.printed =
      greetingText .standard 73744 ++
        String.join ((List.range (min n 12)).map HelloWorld.lineAt) := by
  intro run
  let r := processRunner (simulatedHello {})
  obtain ⟨hdone, hconsole⟩ := HelloWorld.safe.setUp 0 r.device rfl
  have hsetUp : r.prepared.outcome = .done () := Outcome.isDone_iff.mp hdone
  have hgreeting : r.prepared.trace.printed = greetingText .standard 73744 := by decide +kernel
  have hopen : Console.TakesAll r.device.console := OutputStream.takesAll rfl
  have hroom : ∀ k, r.clock.Allows k := Clock.allows_of_wraps rfl
  have hready : r.readied.device.Audible 0 := ⟨HelloWorld.place_of_setUp hsetUp, hconsole⟩
  have hlines := hready.printed_runSteps r.readied.name n (Nat.zero_le _) hroom
  refine ⟨((HelloWorld.Unhindered.runFor rfl hsetUp hopen n).1 (hroom _)).1, ?_⟩
  have hrun : run = _ := Runner.runFor_of_prepared rfl hsetUp n
  have hopening : Event.outText r.opening = "" := rfl
  have hclosing : Trace.printed [r.closing] = "" := rfl
  rw [hrun, Runner.behind, Trace.printed_append, hlines, Trace.printed_append, hclosing,
    Trace.printed_cons, hopening, hgreeting, String.empty_append, String.append_empty,
    List.range_eq_range']
  rfl

/-- It sleeps behind each of its steps but the last one. -/
theorem delayCalls_simulatedHello :
    delayCalls ((processRunner (simulatedHello {})).calls 12) = 11 := by decide +kernel

/-- What the last record says about a run of the greeting that may take `n` steps. -/
def closingText : String :=
  if 12 ≤ n then "Device restart requested after 12 steps" else s!"Stopped after {n} steps"

theorem closing_simulatedHello :
    RunReport.closing ⟨min n 12, decide (12 ≤ n)⟩ = simulatorRecord .info (closingText n) := by
  by_cases h : 12 ≤ n
  · rw [closingText, if_pos h, Nat.min_eq_right h, decide_eq_true h]
    rfl
  · rw [closingText, if_neg h, Nat.min_eq_left (by omega), decide_eq_false h]
    rfl

/-- The greeting ends well and closes with the number of its steps. -/
theorem boundedProcess_simulatedHello :
    boundedProcess n (simulatedHello {}) =
      ⟨((processRunner (simulatedHello {})).runFor n).trace ++
        [simulatorRecord .info (closingText n)], some 0⟩ := by
  rw [boundedProcess_of_done (runFor_simulatedHello n).1, closing_simulatedHello]

/-- The greeting leaves by itself when it is not limited, and with a smaller budget it is on the way
there. -/
theorem endlessProcess_simulatedHello (budget : Nat) :
    let run := endlessProcess budget (simulatedHello {})
    let whole := (processRunner (simulatedHello {})).runFor 12
    (11 ≤ budget → run.exit = some 0 ∧ run.trace.printed = whole.trace.printed) ∧
    (budget < 11 → run.exit = none ∧ run.trace <+: whole.trace) := by
  intro run whole
  have houtcome := (runFor_simulatedHello 12).1
  constructor
  · intro hbudget
    have hcovered : delayCalls ((processRunner (simulatedHello {})).calls 12) ≤ budget := by
      rw [delayCalls_simulatedHello]
      exact hbudget
    have hleaves := Runner.leavesAfter_restart houtcome budget hcovered
    have hrun : run = _ := endlessProcess_of_done (congrArg Effect.outcome hleaves)
    rw [hrun, hleaves]
    refine ⟨rfl, ?_⟩
    rw [Trace.printed_append]
    exact String.append_empty
  · intro hbudget
    have hshort : budget < delayCalls ((processRunner (simulatedHello {})).calls 12) := by
      rw [delayCalls_simulatedHello]
      exact hbudget
    have hasleep : Runner.AsleepOn budget whole ((processRunner (simulatedHello {})).run budget) :=
      Runner.asleepOn_run hshort (Clock.allows_of_wraps rfl budget)
    have hrun : run = _ := endlessProcess_of_done hasleep.asleep
    rw [hrun]
    exact ⟨rfl, hasleep.on_the_way⟩

end Greeting

/-- What a process prints is what its demo prints: its first record is a line of the log. -/
theorem outText_simulate (budget : Nat) (arguments : Arguments) :
    outText {} (simulate {} budget arguments).trace =
      (demoProcess {} budget arguments).trace.printed := by
  have hopening : (openingRecord arguments.demo).outText = "" := rfl
  show Trace.printed (openingRecord arguments.demo :: _) = _
  rw [Trace.printed_cons, hopening, String.empty_append]

/-- For every demo, whether its delays are slept or not, and with output streams that never fail: a
process with `n` steps and one with `m` of them succeed, and the one with more steps prints what the
other prints and goes on. The greeting prints the text of its setup and then a line for each step,
of which there are twelve; its last record says that a restart was requested when the steps allow
for all of them, and how many were taken when they do not. Without a limit it prints and exits as
with twelve steps or more, once its eleven delays are over; before that it is on the way there. -/
theorem prints_the_same_however_far (n m : Nat) (hle : n ≤ m) :
    let lines := ((List.range 11).map fun i => s!"Restarting in {10 - i} seconds...\n") ++
      ["Restarting now.\n"]
    let closing :=
      if 12 ≤ n then "Device restart requested after 12 steps" else s!"Stopped after {n} steps"
    (∀ (demo : Demo) (budget budget' : Nat) (fast fast' : Bool),
      let shorter := simulate {} budget ⟨demo, some n, fast⟩
      let longer := simulate {} budget' ⟨demo, some m, fast'⟩
      shorter.exit = some 0 ∧ longer.exit = some 0 ∧
      ∃ rest, outText {} longer.trace = outText {} shorter.trace ++ rest) ∧
    ∀ (budget : Nat) (fast : Bool),
      let run := simulate {} budget ⟨.helloWorld, some n, fast⟩
      outText {} run.trace =
        greetingText .standard 73744 ++ String.join (lines.take (min n 12)) ∧
      run.trace.getLast? = some (simulatorRecord .info closing) ∧
      ∀ (budget' : Nat) (fast' : Bool), 12 ≤ n →
        let unlimited := simulate {} budget' ⟨.helloWorld, none, fast'⟩
        (11 ≤ budget' → unlimited.exit = some 0 ∧
          outText {} unlimited.trace = outText {} run.trace) ∧
        (budget' < 11 → unlimited.exit = none ∧
          ∃ rest, outText {} run.trace = outText {} unlimited.trace ++ rest) := by
  intro lines closing
  have hprinted := (runFor_simulatedHello n).2
  refine ⟨fun demo budget budget' fast fast' => ?_, fun budget fast => ?_⟩
  · intro shorter longer
    rw [outText_simulate, outText_simulate]
    exact demoProcess_longer hle demo budget budget' fast fast'
  · intro run
    have hout : outText {} run.trace =
        ((processRunner (simulatedHello {})).runFor n).trace.printed := by
      rw [outText_simulate]
      exact (HelloWorld.safe.process rfl n).2
    refine ⟨?_, ?_, fun budget' fast' hall => ⟨fun hbudget => ?_, fun hbudget => ?_⟩⟩
    · have hlines : lines = (List.range 12).map HelloWorld.lineAt := by decide +kernel
      rw [hout, hprinted, hlines, ← List.map_take, List.take_range,
        Nat.min_eq_left (Nat.min_le_right ..)]
    · show (openingRecord .helloWorld :: (boundedProcess n (simulatedHello {})).trace).getLast? = _
      rw [boundedProcess_simulatedHello, ← List.cons_append, List.getLast?_concat]
      rfl
    · obtain ⟨hexit, htext⟩ := (endlessProcess_simulatedHello budget').1 hbudget
      rw [hout, hprinted, outText_simulate, Nat.min_eq_right hall]
      exact ⟨hexit, htext.trans (runFor_simulatedHello 12).2⟩
    · obtain ⟨hexit, hprefix⟩ := (endlessProcess_simulatedHello budget').2 hbudget
      rw [hout, hprinted, outText_simulate, Nat.min_eq_right hall]
      refine ⟨hexit, ?_⟩
      have hwhole := (runFor_simulatedHello 12).2
      rw [Nat.min_self] at hwhole
      rw [← hwhole]
      exact Trace.printed_of_prefix hprefix

/-- Twelve steps, a million of them, and no limit. -/
theorem greeting_ends_by_itself :
    let short := simulate {} 0 ⟨.wifiScan, some 12, true⟩
    let long := simulate {} 0 ⟨.wifiScan, some 1000000, false⟩
    let unlimited := simulate {} 11 ⟨.helloWorld, none, false⟩
    12 ≤ 1000000 ∧ short.exit = some 0 ∧
    (∃ rest, outText {} long.trace = outText {} short.trace ++ rest) ∧
    unlimited.exit = some 0 ∧
    outText {} unlimited.trace =
      outText {} (simulate {} 0 ⟨.helloWorld, some 12, true⟩).trace := by
  intro short long unlimited
  have hle : 12 ≤ 1000000 := by decide
  obtain ⟨hdemos, hgreeting⟩ := prints_the_same_however_far 12 1000000 hle
  obtain ⟨hexit, -, hrest⟩ := hdemos .wifiScan 0 0 true false
  obtain ⟨-, -, hunlimited⟩ := hgreeting 0 true
  obtain ⟨hleaves, hsame⟩ := (hunlimited 11 false (Nat.le_refl 12)).1 (Nat.le_refl 11)
  exact ⟨hle, hexit, hrest, hleaves, hsame⟩

end Metronome
