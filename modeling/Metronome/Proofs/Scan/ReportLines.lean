import Mathlib
import Metronome.Proofs.Scan.Reporting
import Metronome.Proofs.Text.Decimal
import Metronome.Proofs.Text.Lines

/-!
# The lines of a scan report

A report is written as a line for each network between two lines in front and an empty one behind
(`reportLines`). The name of a network is written as it is, so a name with line feeds takes up more
lines than one.

* `reportTaken_eq`: a console that takes everything takes these lines.
* `report_read_back`: where no name holds a line feed, the text of a report tells the number of
  networks and for each of them the name, the signal and whether it is open.
-/

namespace Metronome

/-! ## What a report is written as -/

/-- The line that is written for a network. -/
def AccessPoint.row (rank : Nat) (ap : AccessPoint) : String :=
  s!"{rank}: {ap.ssid} ({ap.rssi}){ap.marker}"

/-- The line that tells how many networks there are. -/
def foundLine (aps : List AccessPoint) : String :=
  if aps = [] then "no networks found" else s!"{aps.length} networks found"

/-- The lines of networks, ranked from some rank on. -/
def rowsFrom (rank : Nat) (aps : List AccessPoint) : List String :=
  (aps.zipIdx rank).map fun (ap, rank) => ap.row rank

/-- The lines that a report is written as. -/
def reportLines (aps : List AccessPoint) : List String :=
  "scan done" :: foundLine aps :: (rowsFrom 1 aps ++ [""])

/-- The text that a console takes of a report. -/
def reportTaken {κ : Type} [Console κ] (now : Nat) (aps : List AccessPoint) (console : κ) :
    String :=
  String.join (printScanReport aps now (⟨console, []⟩ : Transcribed κ)).state.texts

theorem rowsFrom_cons (rank : Nat) (ap : AccessPoint) (aps : List AccessPoint) :
    rowsFrom rank (ap :: aps) = ap.row rank :: rowsFrom (rank + 1) aps := rfl

@[simp]
theorem length_rowsFrom (rank : Nat) (aps : List AccessPoint) :
    (rowsFrom rank aps).length = aps.length := by
  rw [rowsFrom, List.length_map, List.length_zipIdx]

theorem length_reportLines (aps : List AccessPoint) :
    (reportLines aps).length = aps.length + 3 := by
  simp only [reportLines, List.length_cons, List.length_append, length_rowsFrom, List.length_nil]

theorem join_lineTexts (rank : Nat) (aps : List AccessPoint) :
    String.join ((aps.zipIdx rank).map fun (ap, rank) => ap.lineText rank) =
      endLines (rowsFrom rank aps) := by
  rw [endLines, rowsFrom, List.map_map]
  rfl

/-- The report is printed line by line. -/
theorem reportText_eq (aps : List AccessPoint) : reportText aps = endLines (reportLines aps) := by
  have hlast : endLines [""] = "\n" := rfl
  rw [reportText, reportLines, endLines_cons, endLines_cons, endLines_append, hlast, foundLine,
    join_lineTexts]
  by_cases h : aps = []
  · rw [if_pos h, if_pos h, h]
    rfl
  · rw [if_neg h, if_neg h]
    simp only [String.append_assoc]
    rfl

/-- A console that takes everything takes the whole report. -/
theorem reportTaken_eq {κ : Type} [Console κ] {console : κ} (h : Console.TakesAll console)
    (now : Nat) (aps : List AccessPoint) :
    reportTaken now aps console = endLines (reportLines aps) := by
  have hplain := Transcribed.mapState_print now (scanReport aps) ⟨console, []⟩
  have hdone := (congrArg Effect.outcome hplain).trans (h.print now (scanReport aps)).1
  rw [← reportText_eq, ← join_scanReport, reportTaken, printScanReport,
    Transcribed.texts_print now _ _ hdone, List.nil_append]

/-! ## The characters of a line -/

/-- A whole number is written with digits and perhaps a minus sign. -/
theorem digit_or_minus_of_mem_toString {n : Int} {c : Char} (h : c ∈ (toString n).toList) :
    c.isDigit ∨ c = '-' := by
  rw [Int.toString_eq_repr, Int.repr_eq_if] at h
  split at h
  · exact .inl (isDigit_of_mem_toString h)
  · rcases List.mem_append.mp (String.toList_append ▸ h) with hminus | hdigit
    · exact .inr (List.mem_singleton.mp hminus)
    · exact .inl (isDigit_of_mem_toString hdigit)

namespace AccessPoint

theorem toList_marker (ap : AccessPoint) :
    ap.marker.toList = [if ap.auth.isOpen then ' ' else '*'] := by
  rw [marker]
  cases ap.auth.isOpen <;> rfl

/-- A row is a rank, a name, a signal and a marker, with fixed characters between them. -/
theorem toList_row (rank : Nat) (ap : AccessPoint) :
    (ap.row rank).toList = (toString rank).toList ++ ':' :: ' ' :: (ap.ssid.toList ++
      ' ' :: '(' :: ((toString ap.rssi).toList ++ ')' :: ap.marker.toList)) := by
  have hrow : ap.row rank = toString rank ++ ": " ++ ap.ssid ++ " (" ++ toString ap.rssi ++ ")" ++
      ap.marker := rfl
  rw [hrow]
  simp only [String.toList_append, List.append_assoc]
  rfl

/-- A line holds no line feeds but those of the name. -/
theorem count_feed_row (rank : Nat) (ap : AccessPoint) :
    (ap.row rank).toList.count '\n' = ap.ssid.toList.count '\n' := by
  have hrank : (toString rank).toList.count '\n' = 0 :=
    List.count_eq_zero.mpr fun h => absurd (isDigit_of_mem_toString h) (by decide)
  have hrssi : (toString ap.rssi).toList.count '\n' = 0 :=
    List.count_eq_zero.mpr fun h => absurd (digit_or_minus_of_mem_toString h) (by decide)
  have hmarker : ap.marker.toList.count '\n' = 0 := by
    rw [toList_marker]
    cases ap.auth.isOpen <;> decide
  rw [toList_row]
  simp only [List.count_append, List.count_cons, hrank, hrssi, hmarker, Char.reduceBEq,
    Bool.false_eq_true, if_false, Nat.add_zero, Nat.zero_add]

theorem feed_mem_row {rank : Nat} {ap : AccessPoint} :
    '\n' ∈ (ap.row rank).toList ↔ '\n' ∈ ap.ssid.toList := by
  rw [← List.count_pos_iff, count_feed_row, List.count_pos_iff]

/-- Two access points that cannot be told apart in a report. -/
structure LooksLike (ap other : AccessPoint) : Prop where
  ssid_eq : ap.ssid = other.ssid
  rssi_eq : ap.rssi = other.rssi
  isOpen_eq : ap.auth.isOpen = other.auth.isOpen

/-- A line tells the name, the signal and whether the network is open: read from its end, the signal
goes up to the first parenthesis, and all up to the rank is the name. -/
theorem looksLike_of_row_eq {rank : Nat} {ap other : AccessPoint}
    (h : ap.row rank = other.row rank) : ap.LooksLike other := by
  have hchars := congrArg String.toList h
  rw [toList_row, toList_row, List.append_cancel_left_eq, List.cons_inj_right,
    List.cons_inj_right] at hchars
  have hreversed := congrArg List.reverse hchars
  have hnone : ∀ n : Int, '(' ∉ (toString n).toList.reverse := fun n hmem =>
    absurd (digit_or_minus_of_mem_toString (List.mem_reverse.mp hmem)) (by decide)
  simp only [toList_marker, List.reverse_append, List.reverse_cons, List.reverse_nil,
    List.nil_append, List.cons_append, List.append_assoc,
    List.cons.injEq, true_and] at hreversed
  obtain ⟨hmarker, hrest⟩ := hreversed
  obtain ⟨hrssi, hssid⟩ := append_cons_inj_of_not_mem (hnone ap.rssi) (hnone other.rssi) hrest
  refine ⟨?_, ?_, ?_⟩
  · exact String.toList_inj.mp (List.reverse_inj.mp (List.cons.inj hssid).2)
  · exact Int.repr_inj.mp (String.toList_inj.mp (List.reverse_inj.mp hrssi))
  · revert hmarker
    cases ap.auth.isOpen <;> cases other.auth.isOpen <;> decide

theorem LooksLike.row_eq {ap other : AccessPoint} (h : ap.LooksLike other) (rank : Nat) :
    ap.row rank = other.row rank := by
  rw [row, row, marker, marker, h.ssid_eq, h.rssi_eq, h.isOpen_eq]

end AccessPoint

/-! ## Lines without line feeds -/

section Feeds

variable {aps others : List AccessPoint}

theorem exists_row_of_mem_rowsFrom {rank : Nat} {line : String} (h : line ∈ rowsFrom rank aps) :
    ∃ ap ∈ aps, ∃ rank, line = ap.row rank := by
  obtain ⟨⟨ap, place⟩, hmem, rfl⟩ := List.mem_map.mp h
  exact ⟨ap, List.fst_mem_of_mem_zipIdx hmem, place, rfl⟩

theorem feed_not_mem_foundLine (aps : List AccessPoint) : '\n' ∉ (foundLine aps).toList := by
  rw [foundLine]
  split
  · decide
  · have hfound : (s!"{aps.length} networks found").toList =
        (toString aps.length).toList ++ " networks found".toList := String.toList_append
    rw [hfound, List.mem_append, not_or]
    exact ⟨fun h => absurd (isDigit_of_mem_toString h) (by decide), by decide⟩

/-- Without line feeds in the names there are none within the lines of a report. -/
theorem feed_not_mem_reportLines (h : ∀ ap ∈ aps, '\n' ∉ ap.ssid.toList) :
    ∀ line ∈ reportLines aps, '\n' ∉ line.toList := by
  intro line hline
  rcases List.mem_cons.mp hline with rfl | hline
  · decide
  rcases List.mem_cons.mp hline with rfl | hline
  · exact feed_not_mem_foundLine aps
  rcases List.mem_append.mp hline with hline | hline
  · obtain ⟨ap, hap, rank, rfl⟩ := exists_row_of_mem_rowsFrom hline
    exact fun hfeed => h ap hap (AccessPoint.feed_mem_row.mp hfeed)
  · rw [List.mem_singleton.mp hline]
    decide

end Feeds

/-! ## Reading a report back -/

/-- The same rows come from networks that look alike. By induction on the networks, of which each
has the rank of its place. -/
theorem looksLike_of_rowsFrom_eq {rank : Nat} {aps others : List AccessPoint}
    (h : rowsFrom rank aps = rowsFrom rank others) :
    List.Forall₂ AccessPoint.LooksLike aps others := by
  induction aps generalizing rank others with
  | nil =>
    cases others with
    | nil => exact .nil
    | cons other others => cases h
  | cons ap aps ih =>
    cases others with
    | nil => cases h
    | cons other others =>
      obtain ⟨hrow, hrows⟩ := List.cons.inj h
      exact .cons (AccessPoint.looksLike_of_row_eq hrow) (ih hrows)

theorem rowsFrom_eq_of_looksLike {aps others : List AccessPoint}
    (h : List.Forall₂ AccessPoint.LooksLike aps others) (rank : Nat) :
    rowsFrom rank aps = rowsFrom rank others := by
  induction h generalizing rank with
  | nil => rfl
  | cons hap _ ih => rw [rowsFrom_cons, rowsFrom_cons, hap.row_eq, ih]

theorem foundLine_eq_of_length_eq {aps others : List AccessPoint}
    (h : aps.length = others.length) : foundLine aps = foundLine others := by
  have hempty : aps = [] ↔ others = [] := by
    rw [← List.length_eq_zero_iff, ← List.length_eq_zero_iff, h]
  rw [foundLine, foundLine, h]
  simp only [hempty]

/-- Lines say as much as the networks look like. -/
theorem reportLines_eq_iff {aps others : List AccessPoint} :
    reportLines aps = reportLines others ↔
      aps.length = others.length ∧ List.Forall₂ AccessPoint.LooksLike aps others := by
  constructor
  · intro h
    have hlength := congrArg List.length h
    rw [length_reportLines, length_reportLines] at hlength
    obtain ⟨-, hrest⟩ := List.cons.inj h
    obtain ⟨-, hrows⟩ := List.cons.inj hrest
    exact ⟨Nat.add_right_cancel hlength, looksLike_of_rowsFrom_eq (List.append_cancel_right hrows)⟩
  · rintro ⟨hlength, hlooks⟩
    rw [reportLines, reportLines, foundLine_eq_of_length_eq hlength,
      rowsFrom_eq_of_looksLike hlooks]

/-- A report that a console takes whole can be read back, whatever spaces, digits and marks the
names hold, as long as none holds a line feed: two lists of networks give the same text exactly when
they are equally long and agree, one network after the other, on the name, the signal and whether it
is open. -/
theorem report_read_back {κ : Type} [Console κ] {console console' : κ}
    (hopen : Console.TakesAll console) (hopen' : Console.TakesAll console') (now now' : Nat)
    {aps others : List AccessPoint} (hnames : ∀ ap ∈ aps, '\n' ∉ ap.ssid.toList)
    (hnames' : ∀ ap ∈ others, '\n' ∉ ap.ssid.toList) :
    reportTaken now aps console = reportTaken now' others console' ↔
      aps.length = others.length ∧ List.Forall₂ AccessPoint.LooksLike aps others := by
  rw [reportTaken_eq hopen, reportTaken_eq hopen', ← reportLines_eq_iff]
  constructor
  · exact endLines_inj (feed_not_mem_reportLines hnames) (feed_not_mem_reportLines hnames')
  · exact congrArg endLines

/-- Networks with a name that looks like a line of a report, with an empty name and with one of
spaces and marks. -/
def oddlyNamed : List AccessPoint :=
  [⟨"1: office (-41)*", -60, 1, .wpa2⟩, ⟨"", -70, 6, .openNetwork⟩, ⟨" (-7) :", -7, 11, .wpa⟩]

/-- The same names and signals on other channels, secured in other ways. -/
def oddlyNamedElsewhere : List AccessPoint :=
  [⟨"1: office (-41)*", -60, 9, .wapi⟩, ⟨"", -70, 2, .openNetwork⟩, ⟨" (-7) :", -7, 3, .unknown⟩]

/-- A network that is named as the rest of the line of another one. -/
def cutShort : List AccessPoint := [⟨"1: office", -41, 1, .wpa2⟩]

/-- Names that look like other parts of a row. -/
theorem oddly_named_read_back :
    Console.TakesAll ({} : BoundedConsole) ∧
    (∀ ap ∈ oddlyNamed, '\n' ∉ ap.ssid.toList) ∧
    (∀ ap ∈ oddlyNamedElsewhere, '\n' ∉ ap.ssid.toList) ∧
    reportTaken 0 oddlyNamed ({} : BoundedConsole) =
      reportTaken 5 oddlyNamedElsewhere ({} : BoundedConsole) ∧
    reportTaken 0 (oddlyNamed.take 1) ({} : BoundedConsole) ≠
      reportTaken 0 cutShort ({} : BoundedConsole) := by
  have hopen : Console.TakesAll ({} : BoundedConsole) := BoundedConsole.takesAll rfl
  have hnames : ∀ ap ∈ oddlyNamed, '\n' ∉ ap.ssid.toList := by decide
  have hnames' : ∀ ap ∈ oddlyNamedElsewhere, '\n' ∉ ap.ssid.toList := by decide
  refine ⟨hopen, hnames, hnames', ?_, fun hsame => ?_⟩
  · refine (report_read_back hopen hopen 0 5 hnames hnames').mpr ⟨rfl, ?_⟩
    exact .cons ⟨rfl, rfl, rfl⟩ (.cons ⟨rfl, rfl, rfl⟩ (.cons ⟨rfl, rfl, rfl⟩ .nil))
  · have hread := (report_read_back hopen hopen 0 0 (by decide) (by decide)).mp hsame
    cases hread.2 with
    | cons hlooks _ => exact absurd hlooks.rssi_eq (by decide)

end Metronome
