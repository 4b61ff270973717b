import Mathlib.Data.List.TakeDrop
import Metronome.Proofs.Text.Lines
import Metronome.Settings.Export

/-!
# What printed instructions hand over

What is printed is read line by line. A line that begins with the mark of a handover hands over a
key and its value, up to the end of the line. So of a value with line feeds only the first line is
handed over, and each other line is an instruction of its own (`smuggled`). What the build makes of
the blanks around a value is its own affair and no matter here.

* `handedOver_output`: what is handed over follows from one instruction after the other.
* `handsOver_setting`: what the setting of a value hands over.
* `comesThrough_eq_iff`: when values are handed over as they are, and nothing else is.
-/

namespace Metronome

/-! ## Lines that hand over -/

/-- What a line begins with that hands over a value. -/
def handoverMark : String := "cargo:rustc-env="

/-- The key and the value that a line hands over. The first equals sign ends the key. -/
def handedOver? (line : String) : Option (String × String) :=
  if handoverMark.toList.isPrefixOf line.toList then
    match (line.toList.drop handoverMark.toList.length).span (· ≠ '=') with
    | (key, _ :: value) => some (.ofList key, .ofList value)
    | (_, []) => none
  else none

/-- All that a printed text hands over, in order. -/
def handedOver (text : String) : List (String × String) := (endedLines text).filterMap handedOver?

/-- What a text hands over in lines behind its first one. -/
def smuggled (text : String) : List (String × String) := (furtherLines text).filterMap handedOver?

/-- A line without the mark hands over nothing. -/
theorem handedOver?_of_not_prefix {line : String} (h : ¬ handoverMark.toList <+: line.toList) :
    handedOver? line = none := by
  rw [handedOver?, if_neg (mt List.isPrefixOf_iff_prefix.mp h)]

/-- A line with the mark hands over what is on either side of its first equals sign. -/
theorem handedOver?_setting {key : String} (hkey : '=' ∉ key.toList) (value : String) :
    handedOver? (handoverMark ++ key ++ "=" ++ value) = some (key, value) := by
  have hline : (handoverMark ++ key ++ "=" ++ value).toList =
      handoverMark.toList ++ (key.toList ++ '=' :: value.toList) := by
    simp only [String.toList_append, List.append_assoc]
    rfl
  have hspan : (key.toList ++ '=' :: value.toList).span (· ≠ '=') =
      (key.toList, '=' :: value.toList) := by
    have hall : ∀ c ∈ key.toList, decide (c ≠ '=') = true := fun c hc =>
      decide_eq_true fun heq => hkey (heq ▸ hc)
    rw [List.span_eq_takeWhile_dropWhile, List.takeWhile_append_of_pos hall,
      List.dropWhile_append_of_pos hall]
    simp
  rw [handedOver?, hline, if_pos (List.isPrefixOf_iff_prefix.mpr (List.prefix_append ..)),
    List.drop_left, hspan]
  simp only [String.ofList_toList]

theorem smuggled_of_not_mem {text : String} (h : '\n' ∉ text.toList) : smuggled text = [] := by
  rw [smuggled, furtherLines_of_not_mem h]
  rfl

/-! ## Instructions -/

/-- What an instruction hands over. -/
def BuildLine.handsOver (line : BuildLine) : List (String × String) :=
  (linesWithin line.text).filterMap handedOver?

/-- The printed lines are those of the instructions, in order. -/
theorem endedLines_output (e : Export) :
    endedLines e.output = e.lines.flatMap fun line => linesWithin line.text := by
  have houtput : e.output = endLines (e.lines.map BuildLine.text) := by
    rw [Export.output, endLines, List.map_map]
    rfl
  rw [houtput, endedLines_endLines, List.flatMap_map]

/-- What is printed hands over what its instructions hand over. -/
theorem handedOver_output (e : Export) :
    handedOver e.output = e.lines.flatMap BuildLine.handsOver := by
  rw [handedOver, endedLines_output, List.filterMap_flatMap]
  rfl

/-- A name that can be written in front of an equals sign. -/
structure IsSettingKey (key : String) : Prop where
  no_equals : '=' ∉ key.toList
  no_feed : '\n' ∉ key.toList

theorem isSettingKey_of_mem {key : String} (h : key ∈ exportedKeys) : IsSettingKey key := by
  have hall : ∀ key ∈ exportedKeys, '=' ∉ key.toList ∧ '\n' ∉ key.toList := by decide
  exact ⟨(hall key h).1, (hall key h).2⟩

/-- The lines of an instruction whose first line is `before` and what follows on it of `text`. -/
theorem handsOver_of_text {line : BuildLine} {before text : String}
    (hline : line.text = before ++ text) (hbefore : '\n' ∉ before.toList) :
    line.handsOver = (handedOver? (before ++ firstLine text)).toList ++ smuggled text := by
  rw [BuildLine.handsOver, hline, linesWithin_append hbefore, List.filterMap_cons, smuggled]
  cases handedOver? (before ++ firstLine text) <;> rfl

theorem feed_not_mem_setting {key : String} (hkey : IsSettingKey key) :
    '\n' ∉ (handoverMark ++ key ++ "=").toList := by
  have hmark : '\n' ∉ handoverMark.toList := by decide
  simp [hmark, hkey.no_feed]

/-- The setting of a value hands over its first line under its key, and all that the other lines
say. -/
theorem handsOver_setting {key : String} (hkey : IsSettingKey key) (value : String) :
    (BuildLine.setValue key value).handsOver = (key, firstLine value) :: smuggled value := by
  have htext : (BuildLine.setValue key value).text = handoverMark ++ key ++ "=" ++ value := rfl
  rw [handsOver_of_text htext (feed_not_mem_setting hkey), handedOver?_setting hkey.no_equals]
  rfl

/-- An instruction of another kind hands over only what its further lines say. -/
theorem handsOver_of_other {line : BuildLine} {before text : String}
    (hline : line.text = before ++ text) (hbefore : '\n' ∉ before.toList)
    (hlength : handoverMark.toList.length ≤ before.toList.length)
    (hother : ¬ handoverMark.toList <+: before.toList) : line.handsOver = smuggled text := by
  have hfirst : ¬ handoverMark.toList <+: (before ++ firstLine text).toList := by
    rw [String.toList_append]
    exact fun h => hother (List.prefix_of_prefix_length_le h (List.prefix_append ..) hlength)
  rw [handsOver_of_text hline hbefore, handedOver?_of_not_prefix hfirst]
  rfl

theorem handsOver_watchKey {key : String} (hkey : IsSettingKey key) :
    (BuildLine.watchKey key).handsOver = [] := by
  have htext : (BuildLine.watchKey key).text = "cargo:rerun-if-env-changed=" ++ key := rfl
  rw [handsOver_of_other htext (by decide) (by decide) (by decide),
    smuggled_of_not_mem hkey.no_feed]

theorem handsOver_watchFile (path : String) :
    (BuildLine.watchFile path).handsOver = smuggled path := by
  have htext : (BuildLine.watchFile path).text = "cargo:rerun-if-changed=" ++ path := rfl
  exact handsOver_of_other htext (by decide) (by decide) (by decide)

theorem handsOver_linkScript : BuildLine.linkScript.handsOver = [] := by decide

/-! ## The linker script -/

/-- The line that hands the linker script over. -/
def linkLine : String := BuildLine.linkScript.text

/-- An instruction of another kind puts that line into its further lines only. -/
theorem linkLine_mem_iff {line : BuildLine} {before text : String}
    (hline : line.text = before ++ text) (hbefore : '\n' ∉ before.toList)
    (hother : ¬ before.toList <+: linkLine.toList) :
    linkLine ∈ linesWithin line.text ↔ linkLine ∈ furtherLines text := by
  have hfirst : linkLine ≠ before ++ firstLine text := by
    intro heq
    refine hother ?_
    rw [heq, String.toList_append]
    exact List.prefix_append ..
  rw [hline, linesWithin_append hbefore, List.mem_cons, or_iff_right hfirst]

theorem linkLine_mem_watchKey {key : String} (hkey : IsSettingKey key) :
    linkLine ∉ linesWithin (BuildLine.watchKey key).text := by
  have htext : (BuildLine.watchKey key).text = "cargo:rerun-if-env-changed=" ++ key := rfl
  rw [linkLine_mem_iff htext (by decide) (by decide), furtherLines_of_not_mem hkey.no_feed]
  exact List.not_mem_nil

theorem linkLine_mem_watchFile (path : String) :
    linkLine ∈ linesWithin (BuildLine.watchFile path).text ↔ linkLine ∈ furtherLines path := by
  have htext : (BuildLine.watchFile path).text = "cargo:rerun-if-changed=" ++ path := rfl
  exact linkLine_mem_iff htext (by decide) (by decide)

/-- The setting of a value puts the line of the linker script into its further lines only. -/
theorem linkLine_mem_setting {key : String} (hkey : IsSettingKey key) (value : String) :
    linkLine ∈ linesWithin (BuildLine.setValue key value).text ↔
      linkLine ∈ furtherLines value := by
  have htext : (BuildLine.setValue key value).text = handoverMark ++ key ++ "=" ++ value := rfl
  have hother : ¬ (handoverMark ++ key ++ "=").toList <+: linkLine.toList := by
    intro h
    have hmark : ¬ handoverMark.toList <+: linkLine.toList := by decide
    rw [String.append_assoc, String.toList_append] at h
    exact hmark ((List.prefix_append ..).trans h)
  exact linkLine_mem_iff htext (feed_not_mem_setting hkey) hother

/-! ## Settings of values -/

/-- What is written for some keys and their values. -/
def instructions (values : List (String × String)) : List BuildLine :=
  values.flatMap fun (key, value) => [.watchKey key, .setValue key value]

/-- What comes through of some keys and their values: the first line of each value, and what its
other lines say. -/
def comesThrough (values : List (String × String)) : List (String × String) :=
  values.flatMap fun (key, value) => (key, firstLine value) :: smuggled value

theorem handsOver_instructions {values : List (String × String)}
    (hkeys : ∀ key ∈ values.map Prod.fst, IsSettingKey key) :
    (instructions values).flatMap BuildLine.handsOver = comesThrough values := by
  induction values with
  | nil => rfl
  | cons entry values ih =>
    obtain ⟨key, value⟩ := entry
    have hkey : IsSettingKey key := hkeys key (List.mem_cons_self ..)
    have hrest := ih fun other hother => hkeys other (List.mem_cons_of_mem key hother)
    have hinstructions : instructions ((key, value) :: values) =
        .watchKey key :: .setValue key value :: instructions values := rfl
    rw [hinstructions, List.flatMap_cons, List.flatMap_cons, handsOver_watchKey hkey,
      handsOver_setting hkey, hrest]
    rfl

theorem linkLine_mem_instructions {values : List (String × String)}
    (hkeys : ∀ key ∈ values.map Prod.fst, IsSettingKey key) :
    linkLine ∈ (instructions values).flatMap (fun line => linesWithin line.text) ↔
      ∃ value ∈ values.map Prod.snd, linkLine ∈ furtherLines value := by
  induction values with
  | nil => simp [instructions]
  | cons entry values ih =>
    obtain ⟨key, value⟩ := entry
    have hkey : IsSettingKey key := hkeys key (List.mem_cons_self ..)
    have hrest := ih fun other hother => hkeys other (List.mem_cons_of_mem key hother)
    have hinstructions : instructions ((key, value) :: values) =
        .watchKey key :: .setValue key value :: instructions values := rfl
    rw [hinstructions, List.flatMap_cons, List.flatMap_cons, List.mem_append, List.mem_append,
      or_iff_right (linkLine_mem_watchKey hkey), linkLine_mem_setting hkey, hrest, List.map_cons]
    simp only [List.mem_cons, exists_eq_or_imp]

theorem length_le_comesThrough (values : List (String × String)) :
    values.length ≤ (comesThrough values).length := by
  induction values with
  | nil => exact Nat.le_refl 0
  | cons entry values ih =>
    have hthrough : comesThrough (entry :: values) =
        (entry.1, firstLine entry.2) :: smuggled entry.2 ++ comesThrough values := rfl
    rw [hthrough, List.length_append, List.length_cons, List.length_cons]
    omega

/-- Values come through as they are, with nothing else, exactly when nothing is smuggled in before
them and none of them holds a line feed. -/
theorem comesThrough_eq_iff {before values : List (String × String)} :
    before ++ comesThrough values = values ↔
      before = [] ∧ ∀ value ∈ values.map Prod.snd, '\n' ∉ value.toList := by
  induction values generalizing before with
  | nil => simp [comesThrough]
  | cons entry values ih =>
    obtain ⟨key, value⟩ := entry
    have hthrough : comesThrough ((key, value) :: values) =
        (key, firstLine value) :: (smuggled value ++ comesThrough values) := rfl
    constructor
    · intro h
      have hlength := congrArg List.length h
      have hle := length_le_comesThrough ((key, value) :: values)
      rw [List.length_append] at hlength
      obtain rfl : before = [] := List.eq_nil_of_length_eq_zero (by omega)
      rw [List.nil_append, hthrough] at h
      obtain ⟨hfirst, hrest⟩ := List.cons.inj h
      obtain ⟨-, hvalues⟩ := ih.mp hrest
      refine ⟨rfl, fun other hother => ?_⟩
      rcases List.mem_cons.mp hother with rfl | hother
      · exact firstLine_eq_iff.mp (congrArg Prod.snd hfirst)
      · exact hvalues other hother
    · rintro ⟨rfl, hvalues⟩
      have hvalue : '\n' ∉ value.toList := hvalues value (List.mem_cons_self ..)
      have hrest := ih.mpr ⟨rfl, fun other hother => hvalues other (List.mem_cons_of_mem _ hother)⟩
      rw [List.nil_append, hthrough, firstLine_eq_iff.mpr hvalue, smuggled_of_not_mem hvalue, hrest]

end Metronome
