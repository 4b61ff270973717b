import Metronome.Proofs.Scan.Steps
import Metronome.Proofs.Transcripts

/-!
# Observing a scanning demo

An overheard radio is the same radio with a list of its scans beside it: the buffer that each of
them was handed, the buffer that it left and what it came to. A demo cannot tell it from the radio
itself, nor a transcribed console from its console (`plain_step`, `plain_setUp`), so what they note
is what the demo does.
-/

namespace Metronome

/-! ## Radios whose scans are noted -/

/-- A scan of a radio. -/
structure ScanCall where
  /-- The buffer it was handed. -/
  handed : ScanResults
  /-- The buffer it left. -/
  left : ScanResults
  /-- What it came to; when it ended well, the number of access points left out. -/
  outcome : Outcome DriverError Nat
deriving DecidableEq

/-- A radio with the list of its scans. -/
structure Overheard (ρ : Type) where
  radio : ρ
  /-- The scans so far, the first one first. -/
  calls : List ScanCall

namespace Overheard

variable {ρ : Type} [Radio ρ]

/-- Does something with the radio unheard. -/
def use (x : Act ρ DriverError Unit) : Act (Overheard ρ) DriverError Unit :=
  x.on Overheard.radio fun radio w => { w with radio }

/-- Scans and writes that down. -/
def scan : Act (Overheard ρ × ScanResults) DriverError Nat := fun now (w, buffer) =>
  let inner := Radio.scan now (w.radio, buffer)
  let call := ⟨buffer, inner.state.2, inner.outcome⟩
  ⟨inner.outcome, (⟨inner.state.1, w.calls ++ [call]⟩, inner.state.2), inner.trace⟩

instance : Radio (Overheard ρ) where
  startStation := use Radio.startStation
  disconnect := use Radio.disconnect
  scan

end Overheard

/-! ## Observed demos -/

namespace WifiScan

variable {ρ κ : Type}

/-- The demo with its radio overheard and its console transcribed, from now on. -/
def observed (s : WifiScan ρ κ) : WifiScan (Overheard ρ) (Transcribed κ) :=
  { s with radio := ⟨s.radio, []⟩, console := ⟨s.console, []⟩ }

/-- The demo without its observers. -/
def plain (w : WifiScan (Overheard ρ) (Transcribed κ)) : WifiScan ρ κ :=
  { w with radio := w.radio.radio, console := w.console.console }

section Console

variable [Console κ] (now : Nat) (w : WifiScan (Overheard ρ) (Transcribed κ))

theorem plain_useConsole (pieces : List String) :
    (useConsole (Console.print pieces) now w).mapState plain =
      useConsole (Console.print pieces) now w.plain := by
  have hprint := Transcribed.mapState_print now pieces w.console
  have hconsole : w.plain.console = w.console.console := rfl
  rw [useConsole, useConsole, Act.on, Act.on, hconsole, ← hprint]
  rfl

theorem plain_rankAndPrint :
    (rankAndPrint now w).mapState plain = rankAndPrint now w.plain := by
  have hprint : (w.inOrder.printing now).mapState Transcribed.console =
      w.plain.inOrder.printing now := Transcribed.mapState_print ..
  rw [rankAndPrint_apply, rankAndPrint_apply, ← hprint]
  rfl

theorem outcome_announcement_plain :
    (w.plain.announcement now).outcome = (w.announcement now).outcome :=
  (congrArg Effect.outcome (Transcribed.mapState_print now ["scan start\n"] w.console)).symm

end Console

variable [Radio ρ] [Console κ]

section Plain

variable (now : Nat) (w : WifiScan (Overheard ρ) (Transcribed κ))

theorem plain_setUp : (setUp now w).mapState plain = setUp now w.plain := by
  refine Act.mapState_bind (fun _ => rfl) (fun _ => ?_) w
  refine Act.mapState_bind (fun _ => rfl) fun _ w => ?_
  exact plain_useConsole now w _

/-- Observers do not change a step. The warning is about the demo as it is by then, so it is read
off each of the two demos. -/
theorem plain_step : (step now w).mapState plain = step now w.plain := by
  have hget {σ ε α : Type} (k : σ → Act σ ε α) (s : σ) : (Act.get >>= k) now s = k s now s := rfl
  rw [step_eq, step_eq]
  refine Act.mapState_bind (fun w => plain_useConsole now w _) (fun _ => ?_) w
  refine Act.mapState_bind (fun _ => rfl) fun _ => ?_
  refine Act.mapState_bind (fun _ => rfl) fun dropped => ?_
  refine Act.mapState_bind (fun _ => rfl) fun _ w => ?_
  rw [hget, hget]
  refine Act.mapState_bind (fun w' => ?_) (fun _ w => plain_rankAndPrint now w) w
  rw [warnDropped_apply, warnDropped_apply]
  rfl

end Plain

/-! ## The observations of a step -/

/-- The scans of a step. -/
def scanCalls (now : Nat) (s : WifiScan ρ κ) : List ScanCall :=
  (step now s.observed).state.radio.calls

/-- The texts that the console takes in a step. -/
def texts (now : Nat) (s : WifiScan ρ κ) : List String :=
  (step now s.observed).state.console.texts

/-- The one scan that a step makes when its announcement gets through. -/
def scanCall (now : Nat) (s : WifiScan ρ κ) : ScanCall :=
  ⟨.empty, (s.hearing now).state.2, (s.hearing now).outcome⟩

section Calls

variable {now : Nat} {w : WifiScan (Overheard ρ) (Transcribed κ)}

/-- Without an announcement nothing is scanned. -/
theorem calls_of_unannounced (h : (w.announcement now).outcome ≠ .done ()) :
    (step now w).state.radio.calls = w.radio.calls := by
  rw [step_of_unannounced h]
  rfl

/-- A scan is noted whatever it comes to. -/
theorem calls_of_announced (h : (w.announcement now).outcome = .done ()) :
    (step now w).state.radio.calls = w.radio.calls ++ [w.plain.scanCall now] :=
  step_cases now w (fun hopen => absurd h hopen) (fun _ _ => rfl) fun _ _ _ => rfl

/-- A step that ends well has the announcement and the whole report in the transcript. -/
theorem texts_of_done {result : Step} (h : (step now w).outcome = .done result) :
    (step now w).state.console.texts =
      w.console.texts ++ ("scan start\n" :: scanReport (step now w).state.results.entries) := by
  obtain ⟨hopen, dropped, hheard, hprint⟩ := parts_of_done h
  have hfirst := Transcribed.texts_print now _ _ hopen
  have hreport := Transcribed.texts_print now _ _ hprint
  rw [step_of_heard hopen hheard]
  calc (w.reported now dropped).console.texts
      _ = (w.published now dropped).console.texts ++
            scanReport (w.published now dropped).results.entries := hreport
      _ = (w.console.texts ++ ["scan start\n"]) ++
            scanReport (w.published now dropped).results.entries := by rw [← hfirst]; rfl
      _ = _ := List.append_assoc ..

end Calls

section Plain

variable {now : Nat} {s : WifiScan ρ κ}

theorem scanCalls_of_unannounced (h : (s.announcement now).outcome ≠ .done ()) :
    s.scanCalls now = [] := by
  exact calls_of_unannounced ((outcome_announcement_plain now s.observed) ▸ h)

theorem scanCalls_of_announced (h : (s.announcement now).outcome = .done ()) :
    s.scanCalls now = [s.scanCall now] := by
  exact calls_of_announced ((outcome_announcement_plain now s.observed).symm.trans h)

end Plain

end WifiScan

end Metronome
