import Metronome.Proofs.Console.Streams
import Metronome.Proofs.Radio.Strongest
import Metronome.Proofs.Scan.Observing
import Metronome.Radio.Controller
import Metronome.Radio.Drifting
import Metronome.Radio.Scripted

/-!
# What a scan reports

A radio feeds a batch of access points to the buffer it is handed when it pushes them one after the
other and answers how many were discarded (`Radio.Feeds`). A step on such a radio reports exactly
the strongest of its own batch, whatever earlier scans found (`WifiScan.step_reports_strongest`).
-/

namespace Metronome

/-! ## Radios that feed a batch -/

section Feeds

variable {ρ : Type} [Radio ρ]

/-- At an instant, a scan of the radio pushes some access points into the buffer it is handed and
answers how many of them were left out. -/
structure Radio.Feeds (now : Nat) (radio : ρ) (batch : List AccessPoint) : Prop where
  answer : ∀ buffer : ScanResults,
    (Radio.scan now (radio, buffer)).outcome = .done (buffer.pushAll batch).2
  left : ∀ buffer : ScanResults,
    (Radio.scan now (radio, buffer)).state.2 = (buffer.pushAll batch).1

/-- A radio whose scans do not fail feeds its next batch. -/
theorem BatchRadio.feeds {radio : BatchRadio} (h : radio.failScan = false) (now : Nat) :
    Radio.Feeds now radio (radio.batches.head?.getD []) := by
  obtain ⟨batches, stationStarted, disconnects, scans, failScan⟩ := radio
  cases h
  exact ⟨fun _ => rfl, fun _ => rfl⟩

/-- A scripted radio feeds a batch that is to succeed and to leave out nothing more. -/
theorem ScriptedRadio.feeds {radio : ScriptedRadio} {found : List AccessPoint}
    (h : radio.batches.head? = some { found }) (now : Nat) : Radio.Feeds now radio found := by
  obtain ⟨start, disconnects, batches, scans⟩ := radio
  cases batches with
  | nil => cases h
  | cons first batches =>
    cases h
    exact ⟨fun _ => rfl, fun _ => rfl⟩

/-- The controller feeds what it found, under names that are cut to what fits. -/
theorem RadioController.feeds {controller : RadioController} {found : List Station}
    (h : controller.scans.head?.getD (.ok []) = .ok found) (now : Nat) :
    Radio.Feeds now controller (found.map Station.accessPoint) := by
  obtain ⟨config, start, disconnects, scans⟩ := controller
  cases scans with
  | nil =>
    cases h
    exact ⟨fun _ => rfl, fun _ => rfl⟩
  | cons first scans =>
    cases h
    exact ⟨fun _ => rfl, fun _ => rfl⟩

/-- The simulated radio feeds what it sees in its next scan. -/
theorem DriftingRadio.feeds (radio : DriftingRadio) (now : Nat) :
    Radio.Feeds now radio (DriftingRadio.seen (radio.scans + 1)) where
  answer _ := rfl
  left _ := rfl

end Feeds

/-! ## The text of a report -/

/-- The text of one line. -/
def AccessPoint.lineText (rank : Nat) (ap : AccessPoint) : String :=
  s!"{rank}: {ap.ssid} ({ap.rssi}){ap.marker}\n"

/-- The text of a report: the networks are ranked from one. -/
def reportText (aps : List AccessPoint) : String :=
  let found :=
    if aps = [] then "no networks found\n"
    else s!"{aps.length} networks found\n" ++
      String.join ((aps.zipIdx 1).map fun (ap, rank) => ap.lineText rank)
  "scan done\n" ++ found ++ "\n"

theorem join_line (rank : Nat) (ap : AccessPoint) :
    String.join (ap.line rank) = ap.lineText rank := by
  simp only [AccessPoint.line, String.join_cons, String.join_nil, AccessPoint.lineText,
    String.append_assoc, String.append_empty]
  rfl

theorem join_networkLines (rank : Nat) (aps : List AccessPoint) :
    String.join (networkLines rank aps) =
      String.join ((aps.zipIdx rank).map fun (ap, rank) => ap.lineText rank) := by
  induction aps generalizing rank with
  | nil => rfl
  | cons ap aps ih =>
    rw [networkLines, String.join_append, join_line, ih, List.zipIdx_cons, List.map_cons,
      String.join_cons]

theorem join_scanReport (aps : List AccessPoint) :
    String.join (scanReport aps) = reportText aps := by
  rw [scanReport, reportText]
  by_cases h : aps = []
  · rw [if_pos h, if_pos h]
    rfl
  · rw [if_neg h, if_neg h, ← join_networkLines]
    simp only [String.join_append, String.join_cons, String.join_nil, String.append_empty,
      String.append_assoc]
    rfl

namespace WifiScan

variable {ρ κ : Type} [Radio ρ] {now : Nat} {s : WifiScan ρ κ} {batch : List AccessPoint}

/-! ## A step on a radio that feeds a batch -/

section Feeds

variable (hradio : Radio.Feeds now s.radio batch)
include hradio

/-- The buffer that the radio leaves holds the strongest of the batch. -/
theorem keepsStrongest_hearing : KeepsStrongest batch (s.hearing now).state.2.entries := by
  have hleft : (s.hearing now).state.2 = (ScanResults.empty.pushAll batch).1 := hradio.left .empty
  rw [hleft]
  exact (KeepsStrongest.refl .empty).pushAll batch

/-- A radio that feeds a batch says how many of it did not fit. -/
theorem hearing_of_feeds :
    (s.hearing now).outcome = .done (batch.length - min batch.length maxAccessPoints) := by
  have hanswer : (s.hearing now).outcome = .done (ScanResults.empty.pushAll batch).2 :=
    hradio.answer .empty
  have hsize := ScanResults.size_pushAll .empty batch
  have hkept := ((KeepsStrongest.refl .empty).pushAll batch).length_eq
  have hempty : ScanResults.empty.size = 0 := rfl
  have hentries : ScanResults.empty.entries = [] := rfl
  simp only [ScanResults.size, hentries, List.nil_append, List.length_nil] at hsize hkept
  rw [hanswer]
  congr 1
  omega

/-- What is published are the strongest of the batch. -/
theorem keepsStrongest_published [Console κ] (dropped : Nat) :
    KeepsStrongest batch (s.published now dropped).results.entries :=
  (keepsStrongest_hearing hradio).perm (s.ranking.perm _)

end Feeds

theorem step_of_open {s : WifiScan ρ OutputStream} (hradio : Radio.Feeds now s.radio batch)
    (hopen : s.console.full = false) : (step now s).outcome = .done .next := by
  obtain ⟨hdone, hstate⟩ := OutputStream.print_of_open hopen now ["scan start\n"]
  let dropped := batch.length - min batch.length maxAccessPoints
  have hconsole : (s.published now dropped).console.full = false := by
    have hsame : (s.published now dropped).console = s.console := hstate
    rw [hsame, hopen]
  obtain ⟨hprint, -⟩ := OutputStream.print_of_open hconsole now
    (scanReport (s.published now dropped).results.entries)
  rw [step_of_heard hdone (hearing_of_feeds hradio), printing, hprint]
  rfl

theorem scanRecords_of_seen (seen : Nat) :
    scanRecords (min seen maxAccessPoints) (seen - min seen maxAccessPoints) =
      (if maxAccessPoints < seen then [overflowRecord seen] else []) ++
        [foundRecord (min seen maxAccessPoints)] := by
  rw [scanRecords]
  congr 1
  by_cases h : maxAccessPoints < seen
  · have hdropped : seen - min seen maxAccessPoints > 0 := by omega
    have hall : min seen maxAccessPoints + (seen - min seen maxAccessPoints) = seen := by omega
    rw [if_pos h, if_pos hdropped, hall]
  · have hdropped : ¬ seen - min seen maxAccessPoints > 0 := by omega
    rw [if_neg h, if_neg hdropped]

variable [Console κ]

theorem handed_of_mem_scanCalls {call : ScanCall} (h : call ∈ s.scanCalls now) :
    call.handed = .empty := by
  by_cases hopen : (s.announcement now).outcome = .done ()
  · rw [scanCalls_of_announced hopen] at h
    rw [List.mem_singleton.mp h]
    rfl
  · rw [scanCalls_of_unannounced hopen] at h
    cases h

/-- A step that ends well prints the announcement and the report of what is shown behind it. -/
theorem texts_eq_of_done {result : Step} (h : (step now s).outcome = .done result) :
    s.texts now = "scan start\n" :: scanReport (step now s).state.results.entries := by
  have hplain := plain_step now s.observed
  have hobserved : (step now s.observed).outcome = .done result :=
    (congrArg Effect.outcome hplain).trans h
  have hresults : (step now s.observed).state.results = (step now s).state.results :=
    congrArg (fun e => e.state.results) hplain
  rw [← hresults]
  exact texts_of_done hobserved

/-- On a radio that feeds a batch, in whatever state the demo is, a step hands the radio an empty
buffer, and it ends well exactly when the console takes the announcement and the report. If so, it
has scanned once; the results are in order, as many as fit, and some of the batch, with none of the
others stronger than one of them; all others are counted as dropped; the log warns of an overflow,
with the size of the batch, exactly when the batch does not fit; the console has taken the
announcement and the report of the results, ranked from one; and the step would have been the same
whatever earlier scans had found. -/
theorem step_reports_strongest (now : Nat) (s : WifiScan ρ κ) (batch : List AccessPoint)
    (hradio : Radio.Feeds now s.radio batch) :
    let run := step now s
    let results := run.state.results.entries
    let kept := min batch.length maxAccessPoints
    let opened := Console.print ["scan start\n"] now s.console
    (∀ call ∈ s.scanCalls now, call.handed = .empty) ∧
    (run.outcome = .done .next ↔ opened.outcome = .done () ∧
      (Console.print (scanReport results) now opened.state).outcome = .done ()) ∧
    ∀ result, run.outcome = .done result →
      (s.scanCalls now).length = 1 ∧
      results.Pairwise (fun a b => b.rssi ≤ a.rssi) ∧
      results.length = kept ∧
      (∃ leftOut, (results ++ leftOut).Perm batch ∧
        ∀ out ∈ leftOut, ∀ ap ∈ results, out.rssi ≤ ap.rssi) ∧
      run.state.dropped = batch.length - kept ∧
      run.trace = opened.trace ++ ((Radio.scan now (s.radio, .empty)).trace ++
        ((if maxAccessPoints < batch.length then [overflowRecord batch.length] else []) ++
          [foundRecord kept] ++ (Console.print (scanReport results) now opened.state).trace)) ∧
      String.join (s.texts now) = "scan start\n" ++ reportText results ∧
      ∀ earlier count, step now { s with results := earlier, dropped := count } = run := by
  intro run results kept opened
  have hheard : (s.hearing now).outcome = .done (batch.length - kept) := hearing_of_feeds hradio
  refine ⟨fun call => handed_of_mem_scanCalls, step_done_iff hheard, ?_⟩
  intro result hresult
  obtain ⟨hopen, -⟩ := parts_of_done hresult
  have hrun : run = _ := step_of_heard hopen hheard
  have hresults : results = (s.published now (batch.length - kept)).results.entries :=
    congrArg ScanResults.entries (results_of_heard hopen hheard)
  have hstrongest : KeepsStrongest batch results := by
    rw [hresults]
    exact keepsStrongest_published hradio _
  have hlength : results.length = kept := hstrongest.length_eq.trans (Nat.min_comm ..)
  refine ⟨?_, ?_, hlength, hstrongest.exists_leftOut, ?_, ?_, ?_, ?_⟩
  · rw [scanCalls_of_announced hopen]
    rfl
  · rw [hresults]
    exact s.ranking.sorted _
  · rw [hrun]
    rfl
  · have hsize : (s.published now (batch.length - kept)).results.size = kept := by
      rw [ScanResults.size, ← hresults]
      exact hlength
    rw [hresults, hrun, hsize, scanRecords_of_seen]
    rfl
  · rw [texts_eq_of_done hresult, String.join_cons, join_scanReport]
  · intro earlier count
    rw [hrun, step_of_heard (s := { s with results := earlier, dropped := count }) hopen hheard]
    rfl

/-- One station more than fits. -/
def crowd : List Station :=
  List.replicate 32 ⟨"weak", -90, 1, some .wpa2Personal⟩ ++ [⟨"near", -20, 6, none⟩]

/-- A demo in a crowd that still holds a strong result of an earlier scan. -/
def crowded : WifiScan RadioController OutputStream where
  radio := { scans := [.ok crowd] }
  console := {}
  results := ⟨[⟨"earlier", -10, 1, .openNetwork⟩], by decide⟩
  dropped := 7

/-- One network more than fit. -/
theorem crowded_reports_strongest :
    Radio.Feeds 0 crowded.radio (crowd.map Station.accessPoint) ∧
    (step 0 crowded).outcome = .done .next ∧
    (step 0 crowded).state.results.entries.length = 32 ∧ (step 0 crowded).state.dropped = 1 ∧
    overflowRecord 33 ∈ (step 0 crowded).trace ∧
    ∀ call ∈ crowded.scanCalls 0, call.handed = .empty := by
  have hradio : Radio.Feeds 0 crowded.radio (crowd.map Station.accessPoint) :=
    RadioController.feeds rfl 0
  have hdone : (step 0 crowded).outcome = .done .next := step_of_open hradio rfl
  obtain ⟨hhanded, -, hreports⟩ := step_reports_strongest 0 crowded _ hradio
  obtain ⟨-, -, hlength, -, hdropped, htrace, -, -⟩ := hreports .next hdone
  have hseen : (crowd.map Station.accessPoint).length = 33 := List.length_map ..
  rw [hseen] at hlength hdropped htrace
  refine ⟨hradio, hdone, hlength, hdropped, ?_, hhanded⟩
  rw [htrace, if_pos (by decide)]
  simp only [List.mem_append, List.mem_singleton, true_or, or_true]

end WifiScan

end Metronome
