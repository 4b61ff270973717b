/-!
# Texts made of lines

A text in which each line is ended by a line feed. What is written as one line takes up several
lines when it holds line feeds itself (`linesWithin`), and only lines without line feeds can be told
apart behind one another (`endLines_inj`).
-/

namespace Metronome

/-- Some lines as one text, with a line feed behind each. -/
def endLines (lines : List String) : String := String.join (lines.map (· ++ "\n"))

/-- The lines of a text that are ended by line feeds. What follows the last line feed is none of
them. -/
def endedLines (text : String) : List String :=
  (text.toList.splitOn '\n').dropLast.map String.ofList

/-- The lines that a text takes up when it is written as one line. -/
def linesWithin (text : String) : List String := (text.toList.splitOn '\n').map String.ofList

/-! ## Splitting characters -/

theorem length_splitOn (c : Char) (cs : List Char) : (cs.splitOn c).length = cs.count c + 1 := by
  induction cs with
  | nil => rfl
  | cons d cs ih =>
    rw [List.splitOn_cons_eq_if_modifyHead, List.count_cons]
    split
    · rw [List.length_cons, ih]
    · rw [List.length_modifyHead, ih, Nat.add_zero]

theorem not_mem_of_mem_splitOn {c : Char} {cs part : List Char} (h : part ∈ cs.splitOn c) :
    c ∉ part := by
  induction cs generalizing part with
  | nil =>
    rw [List.splitOn_nil] at h
    rw [List.mem_singleton.mp h]
    exact List.not_mem_nil
  | cons d cs ih =>
    rw [List.splitOn_cons_eq_if_modifyHead] at h
    split at h
    · rcases List.mem_cons.mp h with rfl | h
      · exact List.not_mem_nil
      · exact ih h
    · next hne =>
      obtain ⟨first, rest, hparts⟩ := List.exists_cons_of_ne_nil (List.splitOn_ne_nil c cs)
      rw [hparts] at h ih
      rcases List.mem_cons.mp h with rfl | h
      · intro hmem
        rcases List.mem_cons.mp hmem with rfl | hmem
        · exact hne (beq_self_eq_true c)
        · exact ih (List.mem_cons_self ..) hmem
      · exact ih (List.mem_cons_of_mem first h)

/-- A text is cut in one way only at its first occurrence of a character. -/
theorem append_cons_inj_of_not_mem {c : Char} {first first' rest rest' : List Char}
    (h : c ∉ first) (h' : c ∉ first') (heq : first ++ c :: rest = first' ++ c :: rest') :
    first = first' ∧ rest = rest' := by
  have hparts := congrArg (List.splitOn c) heq
  rw [List.splitOn_append_cons_self_of_not_mem h, List.splitOn_append_cons_self_of_not_mem h']
    at hparts
  obtain ⟨rfl, -⟩ := List.cons.inj hparts
  exact ⟨rfl, (List.cons.inj (List.append_cancel_left heq)).2⟩

/-- A text is cut in one way only at its last occurrence of a character. -/
theorem append_cons_inj_of_not_mem_right {c : Char} {rest rest' last last' : List Char}
    (h : c ∉ last) (h' : c ∉ last') (heq : rest ++ c :: last = rest' ++ c :: last') :
    rest = rest' ∧ last = last' := by
  have hreverse := congrArg List.reverse heq
  simp only [List.reverse_append, List.reverse_cons, List.append_assoc, List.singleton_append]
    at hreverse
  obtain ⟨hlast, hrest⟩ := append_cons_inj_of_not_mem (mt List.mem_reverse.mp h)
    (mt List.mem_reverse.mp h') hreverse
  exact ⟨List.reverse_inj.mp hrest, List.reverse_inj.mp hlast⟩

/-- What holds no such character stands in front of the first part. -/
theorem splitOn_append_of_not_mem {c : Char} {before : List Char} (h : c ∉ before)
    (cs : List Char) : (before ++ cs).splitOn c = (cs.splitOn c).modifyHead (before ++ ·) := by
  induction before with
  | nil => exact (congrFun List.modifyHead_id _).symm
  | cons d before ih =>
    obtain ⟨hne, hrest⟩ := not_or.mp (mt List.mem_cons.mpr h)
    rw [List.cons_append, List.splitOn_cons_eq_if_modifyHead, ih hrest,
      if_neg (by simpa using Ne.symm hne), List.modifyHead_modifyHead]
    rfl

/-- The parts, with the character behind each, are the whole. -/
theorem flatMap_splitOn (c : Char) (cs : List Char) :
    (cs.splitOn c).flatMap (· ++ [c]) = cs ++ [c] := by
  induction cs with
  | nil => rfl
  | cons d cs ih =>
    rw [List.splitOn_cons_eq_if_modifyHead]
    split
    · next heq => rw [List.flatMap_cons, ih, beq_iff_eq.mp heq, List.nil_append, List.cons_append,
        List.nil_append, List.cons_append]
    · obtain ⟨first, rest, hparts⟩ := List.exists_cons_of_ne_nil (List.splitOn_ne_nil c cs)
      rw [hparts, List.flatMap_cons] at ih
      rw [hparts, List.modifyHead_cons, List.flatMap_cons, List.cons_append, List.cons_append, ih,
        List.cons_append]

/-! ## The lines within a text -/

theorem linesWithin_of_not_mem {text : String} (h : '\n' ∉ text.toList) :
    linesWithin text = [text] := by
  rw [linesWithin, List.splitOn_eq_singleton h, List.map_singleton, String.ofList_toList]

/-- Each line feed makes one more line. -/
theorem length_linesWithin (text : String) :
    (linesWithin text).length = text.toList.count '\n' + 1 := by
  rw [linesWithin, List.length_map, length_splitOn]

theorem not_mem_of_mem_linesWithin {text line : String} (h : line ∈ linesWithin text) :
    '\n' ∉ line.toList := by
  obtain ⟨part, hpart, rfl⟩ := List.mem_map.mp h
  rw [String.toList_ofList]
  exact not_mem_of_mem_splitOn hpart

/-- The first line within a text. -/
def firstLine (text : String) : String := (linesWithin text).headD ""

/-- The other lines within a text. -/
def furtherLines (text : String) : List String := (linesWithin text).tail

theorem linesWithin_eq_cons (text : String) :
    linesWithin text = firstLine text :: furtherLines text := by
  obtain ⟨first, rest, hparts⟩ := List.exists_cons_of_ne_nil (List.splitOn_ne_nil '\n' text.toList)
  rw [firstLine, furtherLines, linesWithin, hparts]
  rfl

/-- Where no line feed is, the first line is all. -/
theorem firstLine_eq_iff {text : String} : firstLine text = text ↔ '\n' ∉ text.toList := by
  constructor
  · intro h
    have hmem : firstLine text ∈ linesWithin text := by
      rw [linesWithin_eq_cons]
      exact List.mem_cons_self ..
    rw [← h]
    exact not_mem_of_mem_linesWithin hmem
  · intro h
    rw [firstLine, linesWithin_of_not_mem h]
    rfl

theorem furtherLines_of_not_mem {text : String} (h : '\n' ∉ text.toList) :
    furtherLines text = [] := by
  rw [furtherLines, linesWithin_of_not_mem h]
  rfl

/-- What holds no line feed stands in front of the first line. -/
theorem linesWithin_append {before : String} (h : '\n' ∉ before.toList) (text : String) :
    linesWithin (before ++ text) = (before ++ firstLine text) :: furtherLines text := by
  obtain ⟨first, rest, hparts⟩ := List.exists_cons_of_ne_nil (List.splitOn_ne_nil '\n' text.toList)
  rw [linesWithin, String.toList_append, splitOn_append_of_not_mem h, firstLine, furtherLines,
    linesWithin, hparts, List.modifyHead_cons, List.map_cons, List.map_cons, String.ofList_append,
    String.ofList_toList]
  rfl

/-- A line feed ends the lines in front of it. -/
theorem linesWithin_append_feed (text rest : String) :
    linesWithin (text ++ "\n" ++ rest) = linesWithin text ++ linesWithin rest := by
  have hsplit : (text ++ "\n" ++ rest).toList = text.toList ++ '\n' :: rest.toList := by
    rw [String.toList_append, String.toList_append, List.append_assoc]
    rfl
  rw [linesWithin, hsplit, List.splitOn_append_cons_self, List.map_append]
  rfl

/-! ## The lines of a text -/

theorem endLines_cons (line : String) (lines : List String) :
    endLines (line :: lines) = line ++ "\n" ++ endLines lines := by
  rw [endLines, List.map_cons, String.join_cons]
  rfl

theorem endLines_append (lines others : List String) :
    endLines (lines ++ others) = endLines lines ++ endLines others := by
  rw [endLines, List.map_append, String.join_append]
  rfl

/-- Behind the last ended line there is an empty one. -/
theorem linesWithin_endLines (lines : List String) :
    linesWithin (endLines lines) = lines.flatMap linesWithin ++ [""] := by
  induction lines with
  | nil => rfl
  | cons line lines ih =>
    rw [endLines_cons, linesWithin_append_feed, ih, List.flatMap_cons, List.append_assoc]

/-- What is written as some lines takes up the lines within each of them. -/
theorem endedLines_endLines (lines : List String) :
    endedLines (endLines lines) = lines.flatMap linesWithin := by
  rw [endedLines, List.map_dropLast]
  show (linesWithin (endLines lines)).dropLast = _
  rw [linesWithin_endLines, List.dropLast_concat]

/-- Lines without line feeds are found again as they are. -/
theorem flatMap_linesWithin {lines : List String} (h : ∀ line ∈ lines, '\n' ∉ line.toList) :
    lines.flatMap linesWithin = lines := by
  induction lines with
  | nil => rfl
  | cons line lines ih =>
    rw [List.flatMap_cons, linesWithin_of_not_mem (h line (List.mem_cons_self ..)),
      ih fun other hother => h other (List.mem_cons_of_mem line hother), List.singleton_append]

/-- Lines without line feeds can be read back from their text. -/
theorem endLines_inj {lines others : List String} (h : ∀ line ∈ lines, '\n' ∉ line.toList)
    (hothers : ∀ line ∈ others, '\n' ∉ line.toList) (hsame : endLines lines = endLines others) :
    lines = others := by
  rw [← flatMap_linesWithin h, ← flatMap_linesWithin hothers, ← endedLines_endLines, hsame,
    endedLines_endLines]

theorem toList_endLines (lines : List String) :
    (endLines lines).toList = (lines.map String.toList).flatMap (· ++ ['\n']) := by
  induction lines with
  | nil => rfl
  | cons line lines ih =>
    rw [endLines_cons, String.toList_append, String.toList_append, ih, List.map_cons,
      List.flatMap_cons]
    rfl

/-- The lines within a text make up the text. -/
theorem endLines_linesWithin (text : String) : endLines (linesWithin text) = text ++ "\n" := by
  have hparts : (linesWithin text).map String.toList = text.toList.splitOn '\n' := by
    rw [linesWithin, List.map_map]
    exact (List.map_congr_left fun part _ => String.toList_ofList).trans (List.map_id _)
  rw [← String.toList_inj, toList_endLines, hparts, flatMap_splitOn, String.toList_append]
  rfl

/-- What is written as some lines is made up of the lines within each of them. -/
theorem endLines_flatMap_linesWithin (lines : List String) :
    endLines (lines.flatMap linesWithin) = endLines lines := by
  induction lines with
  | nil => rfl
  | cons line lines ih =>
    rw [List.flatMap_cons, endLines_append, endLines_linesWithin, ih, endLines_cons]

end Metronome
