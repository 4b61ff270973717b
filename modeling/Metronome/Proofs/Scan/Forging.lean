import Metronome.Proofs.Radio.Names
import Metronome.Proofs.Scan.ReportLines

/-!
# Names that forge lines of a report

The name of a network is a stranger's choice and is written as it is. A report has one line for each
network as long as no name holds a line feed; every line feed makes one more line, and a name can
put a text of the stranger's choice on a line of its own.

* `report_lines_with_feeds`: which lines the text of any report has.
* `forged_line_of_one_network`: a line of a network that does not exist.
-/

namespace Metronome

/-! ## Names as they are stored -/

/-- A name with a text between two line feeds. -/
def smuggling (forged : String) : String := "\n" ++ forged ++ "\n"

/-- The line feeds take two bytes of those that a name may have. -/
theorem fittingSsid_smuggling {forged : String} (h : forged.utf8ByteSize ≤ 30) :
    fittingSsid (smuggling forged) = smuggling forged := by
  have hfeed : "\n".utf8ByteSize = 1 := rfl
  have hmax : maxSsidBytes = 32 := rfl
  apply fittingSsid_of_le
  rw [smuggling, String.utf8ByteSize_append, String.utf8ByteSize_append, hfeed, hmax]
  omega

/-! ## The lines of a report with line feeds in its names -/

/-- The line feeds in the names of some networks. -/
def nameFeeds (aps : List AccessPoint) : Nat :=
  (aps.map fun ap => ap.ssid.toList.count '\n').sum

/-- Each network takes a line, and each line feed in its name one more. -/
theorem length_flatMap_rowsFrom (rank : Nat) (aps : List AccessPoint) :
    ((rowsFrom rank aps).flatMap linesWithin).length = aps.length + nameFeeds aps := by
  induction aps generalizing rank with
  | nil => rfl
  | cons ap aps ih =>
    rw [rowsFrom_cons, List.flatMap_cons, List.length_append, length_linesWithin,
      AccessPoint.count_feed_row, ih, nameFeeds, nameFeeds, List.map_cons, List.sum_cons,
      List.length_cons]
    omega

/-- The first two lines and the last one hold no line feeds. -/
theorem flatMap_reportLines (aps : List AccessPoint) :
    (reportLines aps).flatMap linesWithin =
      "scan done" :: foundLine aps :: ((rowsFrom 1 aps).flatMap linesWithin ++ [""]) := by
  have hdone : linesWithin "scan done" = ["scan done"] := linesWithin_of_not_mem (by decide)
  have hfound := linesWithin_of_not_mem (feed_not_mem_foundLine aps)
  rw [reportLines, List.flatMap_cons, List.flatMap_cons, List.flatMap_append, hdone, hfound]
  rfl

theorem getElem?_rowsFrom (rank : Nat) (aps : List AccessPoint) (k : Nat) :
    (rowsFrom rank aps)[k]? = aps[k]?.map fun ap => ap.row (rank + k) := by
  rw [rowsFrom, List.getElem?_map, List.getElem?_zipIdx, Option.map_map]
  rfl

theorem getElem?_reportLines {aps : List AccessPoint} {k : Nat} {ap : AccessPoint}
    (h : aps[k]? = some ap) : (reportLines aps)[k + 2]? = some (ap.row (k + 1)) := by
  have hlt : k < (rowsFrom 1 aps).length := by
    rw [length_rowsFrom]
    exact (List.getElem?_eq_some_iff.mp h).1
  rw [reportLines, List.getElem?_cons_succ, List.getElem?_cons_succ,
    List.getElem?_append_left hlt, getElem?_rowsFrom, h, Option.map_some, Nat.add_comm 1 k]

/-- What stands between line feeds in a name is a line. -/
theorem forged_mem_linesWithin_row {forged : String} (hforged : '\n' ∉ forged.toList)
    {ap : AccessPoint} (hssid : ap.ssid = smuggling forged) (rank : Nat) :
    forged ∈ linesWithin (ap.row rank) := by
  have hrow : ap.row rank = toString rank ++ ": " ++ "\n" ++
      (forged ++ "\n" ++ (" (" ++ toString ap.rssi ++ ")" ++ ap.marker)) := by
    have hname : ap.row rank = toString rank ++ ": " ++ ap.ssid ++ " (" ++ toString ap.rssi ++
        ")" ++ ap.marker := rfl
    rw [hname, hssid, smuggling]
    simp only [String.append_assoc]
  rw [hrow, linesWithin_append_feed, linesWithin_append_feed, linesWithin_of_not_mem hforged]
  simp only [List.mem_append, List.mem_singleton, true_or, or_true]

/-- The text that a console takes whole of a report consists of lines that are ended by line feeds:
two lines in front, an empty one behind, and between them a line for each network and one more for
each line feed in its name. Each network is on the line of its own that its rank asks for exactly
when no name holds a line feed. Any text of at most 30 bytes can be made a line of the report, by a
network that has it in its name between line feeds. -/
theorem report_lines_with_feeds {κ : Type} [Console κ] {console : κ}
    (hopen : Console.TakesAll console) (now : Nat) (aps : List AccessPoint) :
    let text := reportTaken now aps console
    let lines := endedLines text
    (printScanReport aps now console).outcome = .done () ∧
    text = endLines lines ∧ (∀ line ∈ lines, '\n' ∉ line.toList) ∧
    lines = "scan done" :: foundLine aps :: ((rowsFrom 1 aps).flatMap linesWithin ++ [""]) ∧
    lines.length = aps.length + 3 + nameFeeds aps ∧
    ((∀ k ap, aps[k]? = some ap → lines[k + 2]? = some (ap.row (k + 1))) ↔
      ∀ ap ∈ aps, '\n' ∉ ap.ssid.toList) ∧
    ∀ forged rssi channel auth, '\n' ∉ forged.toList → forged.utf8ByteSize ≤ 30 →
      AccessPoint.heard (smuggling forged) rssi channel auth ∈ aps → forged ∈ lines := by
  intro text lines
  have htext : text = endLines (reportLines aps) := reportTaken_eq hopen now aps
  have hlines : lines = (reportLines aps).flatMap linesWithin := by
    show endedLines text = _
    rw [htext, endedLines_endLines]
  have hparts := hlines.trans (flatMap_reportLines aps)
  have hfree : ∀ line ∈ lines, '\n' ∉ line.toList := by
    intro line hline
    rw [hlines] at hline
    obtain ⟨written, -, hwithin⟩ := List.mem_flatMap.mp hline
    exact not_mem_of_mem_linesWithin hwithin
  refine ⟨(hopen.print now _).1, ?_, hfree, hparts, ?_, ⟨fun hrows ap hap hfeed => ?_, ?_⟩, ?_⟩
  · rw [hlines, htext, endLines_flatMap_linesWithin]
  · rw [hparts]
    simp only [List.length_cons, List.length_append, length_flatMap_rowsFrom, List.length_nil]
    omega
  · obtain ⟨k, hk⟩ := List.mem_iff_getElem?.mp hap
    exact hfree _ (List.mem_of_getElem? (hrows k ap hk)) (AccessPoint.feed_mem_row.mpr hfeed)
  · intro hnames k ap hk
    rw [hlines, flatMap_linesWithin (feed_not_mem_reportLines hnames)]
    exact getElem?_reportLines hk
  · intro forged rssi channel auth hforged hbytes hap
    have hssid := fittingSsid_smuggling hbytes
    obtain ⟨k, hk⟩ := List.mem_iff_getElem?.mp hap
    have hrow := List.mem_of_getElem? (getElem?_reportLines hk)
    rw [hlines]
    exact List.mem_flatMap.mpr ⟨_, hrow, forged_mem_linesWithin_row hforged hssid _⟩

/-- One network, heard under a name that holds a line of another. -/
def forger : AccessPoint := .heard (smuggling "2: office (-41)*") (-60) 1 .openNetwork

/-- A line of a second network in a report of one. -/
theorem forger_adds_lines :
    Console.TakesAll ({} : BoundedConsole) ∧
    (endedLines (reportTaken 0 [forger] ({} : BoundedConsole))).length = [forger].length + 3 + 2 ∧
    "2: office (-41)*" ∈ endedLines (reportTaken 0 [forger] ({} : BoundedConsole)) := by
  have hopen : Console.TakesAll ({} : BoundedConsole) := BoundedConsole.takesAll rfl
  obtain ⟨-, -, -, -, hlength, -, hforged⟩ := report_lines_with_feeds hopen 0 [forger]
  have hfeeds : nameFeeds [forger] = 2 := by decide
  rw [hfeeds] at hlength
  exact ⟨hopen, hlength, hforged _ _ _ _ (by decide) (by decide) (List.mem_singleton_self _)⟩

/-- The report of a single network that is heard under some name has six lines and not four, and its
third line is not the one that the network is to have. -/
theorem forged_line_of_one_network :
    let text := reportTaken 0 [forger] ({} : BoundedConsole)
    text = "scan done\n1 networks found\n1: \n2: office (-41)*\n (-60) \n\n" ∧
    (endedLines text).length = 6 ∧ (endedLines text).length ≠ [forger].length + 3 ∧
    (endedLines text)[2]? = some "1: " ∧ (endedLines text)[3]? = some "2: office (-41)*" ∧
    (endedLines text)[2]? ≠ some (forger.row 1) := by
  have htext : reportTaken 0 [forger] ({} : BoundedConsole) = endLines (reportLines [forger]) :=
    reportTaken_eq (BoundedConsole.takesAll rfl) 0 [forger]
  have hlines : endLines (reportLines [forger]) =
      "scan done\n1 networks found\n1: \n2: office (-41)*\n (-60) \n\n" := by
    decide
  intro text
  have hwritten : text = "scan done\n1 networks found\n1: \n2: office (-41)*\n (-60) \n\n" :=
    htext.trans hlines
  rw [hwritten]
  refine ⟨rfl, ?_, ?_, ?_, ?_, ?_⟩ <;> decide

end Metronome
