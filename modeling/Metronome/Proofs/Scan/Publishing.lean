import Metronome.Proofs.Scan.Reporting
import Metronome.Proofs.Uses

/-!
# What a demo publishes

What a scanning demo shows is determined by its scans so far: the results are those that the last
scan left, the count is that of the last scan that succeeded. A scan that succeeds has its results
put in order. One that fails does not, and the count behind it is that of an earlier scan, so what
is shown then need not be an account of any one scan.
-/

namespace Metronome

/-! ## What scans leave to be shown -/

/-- The results and the count that a scan leaves to be shown after those of the scans before it. -/
def ScanCall.shownAfter (ranking : Ranking) (before : ScanResults × Nat) (call : ScanCall) :
    ScanResults × Nat :=
  match call.outcome with
  | .done leftOut => (call.left.ranked ranking, leftOut)
  | _ => (call.left, before.2)

/-- The results and the count that some scans leave to be shown. -/
def shown (ranking : Ranking) (calls : List ScanCall) : ScanResults × Nat :=
  calls.foldl (ScanCall.shownAfter ranking) (.empty, 0)

theorem shown_concat (ranking : Ranking) (calls : List ScanCall) (call : ScanCall) :
    shown ranking (calls ++ [call]) = call.shownAfter ranking (shown ranking calls) := by
  rw [shown, List.foldl_append]
  rfl

section After

variable {call : ScanCall} (ranking : Ranking) (before : ScanResults × Nat)

/-- A scan that ends well shows its entries in order, and how many it left out. -/
theorem ScanCall.shownAfter_of_done {leftOut : Nat} (h : call.outcome = .done leftOut) :
    call.shownAfter ranking before = (call.left.ranked ranking, leftOut) := by
  rw [shownAfter, h]

/-- A scan that fails shows what it has found so far, beside the older count. -/
theorem ScanCall.shownAfter_of_not_done (h : ∀ leftOut, call.outcome ≠ .done leftOut) :
    call.shownAfter ranking before = (call.left, before.2) := by
  rw [shownAfter]
  cases ho : call.outcome with
  | done leftOut => exact absurd ho (h leftOut)
  | failed e => rfl
  | aborted abort => rfl

end After

namespace WifiScan

variable {ρ κ : Type} [Radio ρ] [Console κ] {now : Nat}

/-! ## One call -/

section Step

variable {s : WifiScan ρ κ}

theorem ranking_step (now : Nat) (s : WifiScan ρ κ) : (step now s).state.ranking = s.ranking :=
  step_cases now s (fun _ => rfl) (fun _ _ => rfl) fun _ _ _ => rfl

theorem shown_step_of_unannounced (h : (s.announcement now).outcome ≠ .done ()) :
    ((step now s).state.results, (step now s).state.dropped) = (s.results, s.dropped) := by
  rw [step_of_unannounced h]
  rfl

/-- A step with an announcement shows what its scan makes of what was shown before. -/
theorem shown_step_of_announced (h : (s.announcement now).outcome = .done ()) :
    ((step now s).state.results, (step now s).state.dropped) =
      (s.scanCall now).shownAfter s.ranking (s.results, s.dropped) := by
  refine step_cases now s (fun hopen => absurd h hopen) (fun _ hheard => ?_)
    fun dropped _ hheard => ?_
  · have hcall : ∀ dropped, (s.scanCall now).outcome ≠ .done dropped := hheard
    rw [ScanCall.shownAfter_of_not_done _ _ hcall]
    rfl
  · have hcall : (s.scanCall now).outcome = .done dropped := hheard
    rw [ScanCall.shownAfter_of_done _ _ hcall]
    rfl

end Step

/-! ## Any calls -/

/-- An observed demo shows what its scans leave to be shown, and each of them was handed an empty
buffer. -/
structure ShowsScans (ranking : Ranking) (w : WifiScan (Overheard ρ) (Transcribed κ)) : Prop where
  ranking_eq : w.ranking = ranking
  shown_eq : (w.results, w.dropped) = shown ranking w.radio.calls
  handed_eq : ∀ call ∈ w.radio.calls, call.handed = .empty

namespace ShowsScans

variable {ranking : Ranking} {w : WifiScan (Overheard ρ) (Transcribed κ)}

/-- Every step keeps what is shown in line with the scans. -/
theorem step (h : ShowsScans ranking w) (now : Nat) :
    ShowsScans ranking (WifiScan.step now w).state := by
  by_cases hopen : (w.announcement now).outcome = .done ()
  · have hcalls := calls_of_announced hopen
    refine ⟨(ranking_step now w).trans h.ranking_eq, ?_, ?_⟩
    · rw [shown_step_of_announced hopen, hcalls, shown_concat, ← h.shown_eq, h.ranking_eq]
      rfl
    · rw [hcalls]
      intro call hcall
      rcases List.mem_append.mp hcall with hcall | hcall
      · exact h.handed_eq call hcall
      · rw [List.mem_singleton.mp hcall]
        rfl
  · have hcalls := calls_of_unannounced hopen
    refine ⟨(ranking_step now w).trans h.ranking_eq, ?_, ?_⟩
    · rw [shown_step_of_unannounced hopen, hcalls]
      exact h.shown_eq
    · rw [hcalls]
      exact h.handed_eq

/-- The setup makes no scan and changes nothing that is shown. -/
theorem setUp (h : ShowsScans ranking w) (now : Nat) :
    ShowsScans ranking (WifiScan.setUp now w).state := by
  let view (w : WifiScan (Overheard ρ) (Transcribed κ)) :=
    (w.ranking, (w.results, w.dropped), w.radio.calls)
  have hkeeps : view (WifiScan.setUp now w).state = view w := by
    refine Act.bind_keeps (fun _ => rfl) (fun _ => ?_) w
    exact Act.bind_keeps (fun _ => rfl) fun _ _ => rfl
  have hranking := congrArg Prod.fst hkeeps
  have hshown := congrArg (fun v => v.2.1) hkeeps
  have hcalls := congrArg (fun v => v.2.2) hkeeps
  simp only [view] at hranking hshown hcalls
  refine ⟨hranking.trans h.ranking_eq, ?_, ?_⟩
  · rw [hshown, hcalls]
    exact h.shown_eq
  · rw [hcalls]
    exact h.handed_eq

theorem afterUses (h : ShowsScans ranking w) (uses : List DriverUse) :
    ShowsScans ranking (Metronome.afterUses uses w) := by
  refine holds_afterUses (fun use w h => ?_) h uses
  cases use with
  | setUp now => exact h.setUp now
  | step now => exact h.step now

end ShowsScans

theorem plain_afterUses (uses : List DriverUse) (w : WifiScan (Overheard ρ) (Transcribed κ)) :
    (afterUses uses w).plain = afterUses uses w.plain := by
  refine map_afterUses (fun use w => ?_) uses w
  cases use with
  | setUp now => exact congrArg Effect.state (plain_setUp now w)
  | step now => exact congrArg Effect.state (plain_step now w)

/-! ## Whether the results and the count are those of one scan -/

/-- The results shown are in order, and with the count they are those of one scan. -/
structure Publishes (s : WifiScan ρ κ) (call : ScanCall) (leftOut : Nat) : Prop where
  sorted : s.results.entries.Pairwise fun a b => b.rssi ≤ a.rssi
  entries : s.results.entries.Perm call.left.entries
  count : s.dropped = leftOut

/-- The scans of a demo over some calls. -/
def scanHistory (uses : List DriverUse) (s : WifiScan ρ κ) : List ScanCall :=
  (afterUses uses s.observed).radio.calls

theorem scanHistory_step (uses : List DriverUse) {s : WifiScan ρ κ}
    (h : ((afterUses uses s).announcement now).outcome = .done ()) :
    s.scanHistory (uses ++ [.step now]) =
      s.scanHistory uses ++ [(afterUses uses s).scanCall now] := by
  have hplain : (afterUses uses s.observed).plain = afterUses uses s := plain_afterUses uses _
  have hannounced : ((afterUses uses s.observed).announcement now).outcome = .done () := by
    rw [← outcome_announcement_plain, hplain]
    exact h
  have hcalls := calls_of_announced hannounced
  rw [hplain] at hcalls
  rw [scanHistory, afterUses_concat]
  exact hcalls

/-- From its start, over any setups and steps and whatever they come to, what a demo shows are the
results that its last scan left and the count of the last scan that succeeded. A step makes one more
scan when its announcement gets through, whatever it comes to, and every scan is handed an empty
buffer. When the last scan succeeded, the results are in order and both are those of that scan;
before any scan there are none. When it did not succeed, the results are as it left them and the
count is still that of a scan before: they are in order and both are those of the last scan only
where it happens to have left its access points in order and the old count to be its own. -/
theorem publishes_last_scan (radio : ρ) (console : κ) (ranking : Ranking) (uses : List DriverUse) :
    let start : WifiScan ρ κ := { radio, console, ranking }
    let s := afterUses uses start
    let calls := start.scanHistory uses
    (∀ now, (Console.print ["scan start\n"] now s.console).outcome = .done () →
      start.scanHistory (uses ++ [.step now]) = calls ++ [s.scanCall now]) ∧
    (∀ call ∈ calls, call.handed = .empty) ∧
    (calls = [] → s.results.entries = [] ∧ s.dropped = 0) ∧
    ∀ earlier call, calls = earlier ++ [call] →
      (∀ leftOut, call.outcome = .done leftOut → s.Publishes call leftOut) ∧
      ((∀ leftOut, call.outcome ≠ .done leftOut) →
        s.results = call.left ∧ s.dropped = (shown ranking earlier).2 ∧
        ∀ leftOut, s.Publishes call leftOut ↔
          (call.left.entries.Pairwise fun a b => b.rssi ≤ a.rssi) ∧
            leftOut = (shown ranking earlier).2) := by
  intro start s calls
  have hstart : ShowsScans ranking start.observed :=
    ⟨rfl, rfl, fun call hcall => absurd hcall List.not_mem_nil⟩
  have hshows := hstart.afterUses uses
  have hplain : (afterUses uses start.observed).plain = s := plain_afterUses uses start.observed
  have hshown : (s.results, s.dropped) = shown ranking calls := by
    rw [← hplain]
    exact hshows.shown_eq
  refine ⟨fun now hopen => scanHistory_step uses hopen, hshows.handed_eq, ?_, ?_⟩
  · intro hnone
    rw [hnone] at hshown
    obtain ⟨hresults, hdropped⟩ := Prod.mk.inj hshown
    exact ⟨congrArg ScanResults.entries hresults, hdropped⟩
  · intro earlier call hcalls
    rw [hcalls, shown_concat] at hshown
    constructor
    · intro leftOut hdone
      rw [ScanCall.shownAfter_of_done _ _ hdone] at hshown
      obtain ⟨hresults, hdropped⟩ := Prod.mk.inj hshown
      refine ⟨?_, ?_, hdropped⟩
      · rw [hresults]
        exact ranking.sorted _
      · rw [hresults]
        exact ranking.perm _
    · intro hfailed
      rw [ScanCall.shownAfter_of_not_done _ _ hfailed] at hshown
      obtain ⟨hresults, hdropped⟩ := Prod.mk.inj hshown
      refine ⟨hresults, hdropped, fun leftOut => ⟨fun h => ?_, fun h => ?_⟩⟩
      · exact ⟨hresults ▸ h.sorted, h.count.symm.trans hdropped⟩
      · exact ⟨hresults ▸ h.1, hresults ▸ List.Perm.refl _, hdropped.trans h.2.symm⟩

/-- Two access points, the weaker one first. -/
def pair : List AccessPoint := [⟨"far", -80, 1, .wpa2⟩, ⟨"near", -40, 6, .wpa2⟩]

/-- A demo whose radio first sees one access point more than fits, and then finds two before its
scan fails. -/
def faulty : WifiScan ScriptedRadio OutputStream where
  radio :=
    { batches := [{ found := List.replicate 33 ⟨"weak", -90, 1, .wpa2⟩ },
        { found := pair, error := some (.peripheral "Wi-Fi" "scan") }] }
  console := {}

theorem step_faulty : (step 0 faulty).state = faulty.reported 0 1 := by
  have hfeeds : Radio.Feeds 0 faulty.radio (List.replicate 33 ⟨"weak", -90, 1, .wpa2⟩) :=
    ScriptedRadio.feeds rfl 0
  have hheard : (faulty.hearing 0).outcome = .done 1 := by
    have hcount := hearing_of_feeds hfeeds
    rwa [List.length_replicate] at hcount
  have hopen : (faulty.announcement 0).outcome = .done () := (OutputStream.print_of_open rfl 0 _).1
  rw [step_of_heard hopen hheard]

/-- The second scan finds two access points and leaves out none before it fails. Shown behind it are
these two as they were found, the weaker one first, with the count of the scan before. -/
theorem stale_after_failed_scan :
    (afterUses [.step 0, .step 0] faulty).results.entries = pair ∧
    (afterUses [.step 0, .step 0] faulty).dropped = 1 ∧
    (∃ earlier call, faulty.scanHistory [.step 0, .step 0] = earlier ++ [call] ∧
      call.handed = .empty ∧ call.left = (ScanResults.empty.pushAll pair).1) ∧
    (ScanResults.empty.pushAll pair).2 = 0 ∧ ¬ pair.Pairwise (fun a b => b.rssi ≤ a.rssi) := by
  let behind := faulty.reported 0 1
  have hconsole : behind.console.full = false := by
    have hopen : faulty.console.full = false := rfl
    have hfirst : (faulty.published 0 1).console.full = false := by
      have hsame : (faulty.published 0 1).console = faulty.console :=
        (OutputStream.print_of_open hopen 0 _).2
      rw [hsame, hopen]
    have hsame : behind.console = (faulty.published 0 1).console :=
      (OutputStream.print_of_open hfirst 0 _).2
    rw [hsame, hfirst]
  have hopen : (behind.announcement 0).outcome = .done () :=
    (OutputStream.print_of_open hconsole 0 _).1
  have hheard : (behind.hearing 0).outcome = .failed (.peripheral "Wi-Fi" "scan") := rfl
  have hleft : (behind.hearing 0).state.2 = (ScanResults.empty.pushAll pair).1 := rfl
  have hrun : afterUses [.step 0, .step 0] faulty = behind.scanned 0 := by
    have hlast : afterUses [.step 0, .step 0] faulty = (step 0 behind).state :=
      congrArg (fun s => (step 0 s).state) step_faulty
    rw [hlast, step_of_unheard hopen]
    intro dropped
    rw [hheard]
    nofun
  have hbehind : afterUses [.step 0] faulty = behind := step_faulty
  have hcalls : faulty.scanHistory [.step 0, .step 0] =
      faulty.scanHistory [.step 0] ++ [behind.scanCall 0] := by
    rw [← hbehind] at hopen ⊢
    exact scanHistory_step [.step 0] hopen
  have hentries : (behind.scanned 0).results.entries = pair := congrArg ScanResults.entries hleft
  have hunsorted : ¬ pair.Pairwise (fun a b => b.rssi ≤ a.rssi) := by decide
  rw [hrun]
  exact ⟨hentries, rfl, ⟨_, _, hcalls, rfl, hleft⟩, rfl, hunsorted⟩

end WifiScan

end Metronome
