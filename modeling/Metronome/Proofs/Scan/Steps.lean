import Metronome.Demo.WifiScan

/-!
# The steps of a scanning demo

A step announces a scan on the console, lets the radio scan into an empty buffer and, when that
succeeds, ranks what was found and prints it. It can end in three ways: the announcement does not
get through (`step_of_unannounced`), the scan does not succeed (`step_of_unheard`), or the results
are published and printed, whether or not the console takes all of the report (`step_of_heard`).
-/

namespace Metronome

namespace WifiScan

variable {ρ κ : Type}

/-! ## Records -/

/-- The record of a scan that saw more access points than fit. -/
def overflowRecord (seen : Nat) : Event :=
  .log { severity := .warn, source := .wifiScan,
         text := s!"scan saw {seen} access points, reporting the strongest {maxAccessPoints}" }

/-- The record of a scan that succeeded. -/
def foundRecord (found : Nat) : Event :=
  .log { severity := .info, source := .wifiScan, text := s!"scan found {found} access points" }

/-- What a scan that kept some access points and left out others writes to the log. -/
def scanRecords (kept dropped : Nat) : Trace :=
  (if dropped > 0 then [overflowRecord (kept + dropped)] else []) ++ [foundRecord kept]

/-! ## The parts of a step -/

section Report

variable [Console κ]

/-- What the announcement of a scan leaves of the console. -/
def announcement (now : Nat) (s : WifiScan ρ κ) : Effect κ DriverError Unit :=
  Console.print ["scan start\n"] now s.console

/-- The demo behind the announcement: nothing but the console has changed. -/
def announced (now : Nat) (s : WifiScan ρ κ) : WifiScan ρ κ :=
  { s with console := (s.announcement now).state }

/-- The demo with its results in order. -/
def inOrder (s : WifiScan ρ κ) : WifiScan ρ κ := { s with results := s.results.ranked s.ranking }

/-- What printing the results leaves of the console. -/
def printing (now : Nat) (s : WifiScan ρ κ) : Effect κ DriverError Unit :=
  Console.print (scanReport s.results.entries) now s.console

/-- Brings the results in order and prints them. -/
def rankAndPrint : Act (WifiScan ρ κ) DriverError Step := do
  Act.modify inOrder
  let results := (← Act.get).results
  Act.emit (foundRecord results.size)
  useConsole (printScanReport results.entries)
  pure .next

theorem rankAndPrint_apply (now : Nat) (s : WifiScan ρ κ) :
    rankAndPrint now s = ⟨(s.inOrder.printing now).outcome.map fun () => .next,
      { s.inOrder with console := (s.inOrder.printing now).state },
      foundRecord s.inOrder.results.size :: (s.inOrder.printing now).trace⟩ := by
  have hprint : useConsole (printScanReport s.inOrder.results.entries) now s.inOrder =
      ⟨(s.inOrder.printing now).outcome,
        { s.inOrder with console := (s.inOrder.printing now).state },
        (s.inOrder.printing now).trace⟩ := rfl
  have hparts : rankAndPrint now s =
      ((Act.emit (foundRecord s.inOrder.results.size) : Act (WifiScan ρ κ) DriverError Unit) >>=
        fun () => useConsole (printScanReport s.inOrder.results.entries) >>= fun () =>
          pure Step.next) now s.inOrder := rfl
  rw [hparts, Act.bind_apply]
  simp only [Act.emit, Act.bind_apply, hprint]
  cases (s.inOrder.printing now).outcome with
  | done value => simp only [Outcome.map, Act.pure_apply, List.append_nil, List.singleton_append]
  | failed e => rfl
  | aborted abort => rfl

end Report

theorem useConsole_announce [Console κ] (now : Nat) (s : WifiScan ρ κ) :
    useConsole (Console.print ["scan start\n"]) now s =
      ⟨(s.announcement now).outcome, s.announced now, (s.announcement now).trace⟩ := rfl

/-- There is a warning where networks were dropped. -/
theorem warnDropped_apply (scan : WifiScan ρ κ) (now : Nat) (s : WifiScan ρ κ) :
    warnDropped scan now s = ⟨.done (), s,
      if scan.dropped > 0 then [overflowRecord (scan.results.size + scan.dropped)] else []⟩ := by
  rw [warnDropped]
  split
  · rfl
  · rfl

variable [Radio ρ] [Console κ]

/-- What a scan into an empty buffer leaves of the radio and of the buffer. -/
def hearing (now : Nat) (s : WifiScan ρ κ) : Effect (ρ × ScanResults) DriverError Nat :=
  Radio.scan now (s.radio, .empty)

/-- The demo behind the scan: it holds what the scan left, and the count of an earlier scan. -/
def scanned (now : Nat) (s : WifiScan ρ κ) : WifiScan ρ κ :=
  { s.announced now with
    radio := (s.hearing now).state.1
    results := (s.hearing now).state.2 }

/-- The demo behind a scan that succeeded and left out `dropped` access points. -/
def published (now dropped : Nat) (s : WifiScan ρ κ) : WifiScan ρ κ :=
  { s.scanned now with dropped }.inOrder

/-- The demo behind the report. -/
def reported (now dropped : Nat) (s : WifiScan ρ κ) : WifiScan ρ κ :=
  { s.published now dropped with console := ((s.published now dropped).printing now).state }

/-! ## The ends of a step -/

theorem step_eq : (step : Act (WifiScan ρ κ) DriverError Step) =
    useConsole (Console.print ["scan start\n"]) >>= fun () =>
      Act.modify (fun scan => { scan with results := .empty }) >>= fun () =>
      scanRadio >>= fun dropped =>
      Act.modify (fun scan => { scan with dropped }) >>= fun () =>
      Act.get >>= fun scan => warnDropped scan >>= fun () => rankAndPrint := rfl

variable {now : Nat} {s : WifiScan ρ κ}

theorem scanRadio_announced (now : Nat) (s : WifiScan ρ κ) :
    scanRadio now { s.announced now with results := .empty } =
      ⟨(s.hearing now).outcome, s.scanned now, (s.hearing now).trace⟩ := rfl

/-- An announcement that does not get through is all of its step, and the results stay. -/
theorem step_of_unannounced (h : (s.announcement now).outcome ≠ .done ()) :
    step now s = ⟨(s.announcement now).outcome.map fun () => .next, s.announced now,
      (s.announcement now).trace⟩ := by
  have hopen : ∀ value, (useConsole (Console.print ["scan start\n"]) now s).outcome ≠ .done value :=
    fun () => h
  rw [step_eq, Act.bind_of_not_done hopen fun _ => Step.next, useConsole_announce]

section Announced

variable (hannounced : (s.announcement now).outcome = .done ())
include hannounced

/-- A scan that does not succeed ends its step, and what it left is not put in order. -/
theorem step_of_unheard (h : ∀ dropped, (s.hearing now).outcome ≠ .done dropped) :
    step now s = ⟨(s.hearing now).outcome.map fun _ => .next, s.scanned now,
      (s.announcement now).trace ++ (s.hearing now).trace⟩ := by
  have hscan : ∀ dropped, (scanRadio now { s.announced now with results := .empty }).outcome ≠
      .done dropped := h
  rw [step_eq, Act.bind_apply, useConsole_announce, hannounced]
  simp only [Act.bind_apply (Act.modify _), Act.modify, List.nil_append]
  rw [Act.bind_of_not_done hscan fun _ => Step.next, scanRadio_announced]

/-- A scan that succeeds is published and then printed. -/
theorem step_of_heard {dropped : Nat} (h : (s.hearing now).outcome = .done dropped) :
    step now s = ⟨((s.published now dropped).printing now).outcome.map fun () => .next,
      s.reported now dropped,
      (s.announcement now).trace ++ ((s.hearing now).trace ++
        (scanRecords (s.published now dropped).results.size dropped ++
          ((s.published now dropped).printing now).trace))⟩ := by
  rw [step_eq, Act.bind_apply, useConsole_announce, hannounced]
  simp only [Act.bind_apply (Act.modify _), Act.modify, List.nil_append]
  rw [Act.bind_apply, scanRadio_announced, h]
  simp only [Act.bind_apply, Act.modify, Act.get, warnDropped_apply, rankAndPrint_apply,
    List.nil_append]
  have hsize : (s.scanned now).results.size = (s.published now dropped).results.size :=
    (ScanResults.size_ranked ..).symm
  rw [hsize, scanRecords, List.append_assoc]
  rfl

theorem results_of_heard {dropped : Nat} (h : (s.hearing now).outcome = .done dropped) :
    (step now s).state.results = (s.published now dropped).results := by
  rw [step_of_heard hannounced h]
  rfl

end Announced

/-- To prove something of what a step leaves, look at the three ways in which it can end. -/
@[elab_as_elim]
theorem step_cases {motive : Effect (WifiScan ρ κ) DriverError Step → Prop} (now : Nat)
    (s : WifiScan ρ κ)
    (unannounced : (s.announcement now).outcome ≠ .done () →
      motive ⟨(s.announcement now).outcome.map fun () => .next, s.announced now,
        (s.announcement now).trace⟩)
    (unheard : (s.announcement now).outcome = .done () →
      (∀ dropped, (s.hearing now).outcome ≠ .done dropped) →
      motive ⟨(s.hearing now).outcome.map fun _ => .next, s.scanned now,
        (s.announcement now).trace ++ (s.hearing now).trace⟩)
    (heard : ∀ dropped, (s.announcement now).outcome = .done () →
      (s.hearing now).outcome = .done dropped →
      motive ⟨((s.published now dropped).printing now).outcome.map fun () => .next,
        s.reported now dropped,
        (s.announcement now).trace ++ ((s.hearing now).trace ++
          (scanRecords (s.published now dropped).results.size dropped ++
            ((s.published now dropped).printing now).trace))⟩) : motive (step now s) := by
  by_cases hopen : (s.announcement now).outcome = .done ()
  · by_cases hheard : ∃ dropped, (s.hearing now).outcome = .done dropped
    · obtain ⟨dropped, hheard⟩ := hheard
      rw [step_of_heard hopen hheard]
      exact heard dropped hopen hheard
    · have hunheard : ∀ dropped, (s.hearing now).outcome ≠ .done dropped :=
        fun dropped h => hheard ⟨dropped, h⟩
      rw [step_of_unheard hopen hunheard]
      exact unheard hopen hunheard
  · rw [step_of_unannounced hopen]
    exact unannounced hopen

/-- A step ends well only when all of its parts do. -/
theorem parts_of_done {result : Step} (h : (step now s).outcome = .done result) :
    (s.announcement now).outcome = .done () ∧ ∃ dropped, (s.hearing now).outcome = .done dropped ∧
      ((s.published now dropped).printing now).outcome = .done () := by
  revert h
  refine step_cases now s (fun hopen h => ?_) (fun hopen hheard h => ?_)
    fun dropped hopen hheard h => ?_
  · obtain ⟨value, hdone, -⟩ := Outcome.map_eq_done.mp h
    exact absurd hdone hopen
  · obtain ⟨dropped, hdone, -⟩ := Outcome.map_eq_done.mp h
    exact absurd hdone (hheard dropped)
  · obtain ⟨value, hprint, -⟩ := Outcome.map_eq_done.mp h
    exact ⟨hopen, dropped, hheard, hprint⟩

/-- After a scan that succeeds it is left to the console whether the step does. -/
theorem step_done_iff {dropped : Nat} (hheard : (s.hearing now).outcome = .done dropped) :
    (step now s).outcome = .done .next ↔ (s.announcement now).outcome = .done () ∧
      (Console.print (scanReport (step now s).state.results.entries) now
        (s.announcement now).state).outcome = .done () := by
  constructor
  · intro hdone
    obtain ⟨hopen, dropped', hheard', hprint⟩ := parts_of_done hdone
    rw [results_of_heard hopen hheard']
    exact ⟨hopen, hprint⟩
  · rintro ⟨hopen, hprint⟩
    rw [results_of_heard hopen hheard] at hprint
    have hprinting : ((s.published now dropped).printing now).outcome = .done () := hprint
    rw [step_of_heard hopen hheard, hprinting]
    rfl

end WifiScan

end Metronome
