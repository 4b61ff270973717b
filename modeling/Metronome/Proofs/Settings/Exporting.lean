import Mathlib.Data.List.ReduceOption
import Metronome.Proofs.Settings.Handover

/-!
# What the build is told

The value of a key is the environment's or else that of the last entry of the key (`GivenValue`).
Export goes through the keys in order and ends in one of two ways: all keys have a value, or it
stops at the first one that has none (`exportKeys_cases`). What it prints depends on nothing else of
the settings file than the last value of each key (`exportKeys_congr`). The values come through as
they are if none of them holds a line feed (`exports_on_printed_lines`).
-/

namespace Metronome

/-! ## Values of keys -/

/-- The value that the environment and some entries give a key. -/
inductive GivenValue (environment : String → Option String) (entries : List Entry) (key : String) :
    String → Prop where
  | ofEnvironment {value : String} (hset : environment key = some value) :
    GivenValue environment entries key value
  /-- No entry behind this one is of the same key. -/
  | ofFile {value : String} {before after : List Entry} (hunset : environment key = none)
    (hentries : entries = before ++ ⟨key, value⟩ :: after) (hlast : ∀ e ∈ after, e.key ≠ key) :
    GivenValue environment entries key value

theorem lastValue?_eq_getLast? (entries : List Entry) (key : String) :
    lastValue? entries key = (entries.filter (·.key = key)).getLast?.map Entry.value := by
  rw [lastValue?, List.getLast?_filter]

/-- The last value of a key is that of an entry with none of the key behind it. -/
theorem lastValue?_eq_some_iff {entries : List Entry} {key value : String} :
    lastValue? entries key = some value ↔ ∃ before after,
      entries = before ++ ⟨key, value⟩ :: after ∧ ∀ e ∈ after, e.key ≠ key := by
  rw [lastValue?, Option.map_eq_some_iff]
  constructor
  · rintro ⟨e, hfind, rfl⟩
    obtain ⟨hkey, after, before, hreverse, hafter⟩ := List.find?_eq_some_iff_append.mp hfind
    have hkey : e.key = key := of_decide_eq_true hkey
    subst hkey
    refine ⟨before.reverse, after.reverse, ?_, fun later hlater => ?_⟩
    · have hentries := congrArg List.reverse hreverse
      simpa using hentries
    · have := hafter later (List.mem_reverse.mp hlater)
      simpa using this
  · rintro ⟨before, after, rfl, hlast⟩
    refine ⟨⟨key, value⟩, List.find?_eq_some_iff_append.mpr ⟨by simp, ?_⟩, rfl⟩
    refine ⟨after.reverse, before.reverse, by simp, fun e he => ?_⟩
    simpa using hlast e (List.mem_reverse.mp he)

/-- The value of a key is looked up in the environment and then in the file. -/
theorem givenValue_iff {environment : String → Option String} {entries : List Entry}
    {key value : String} :
    GivenValue environment entries key value ↔
      (environment key).or (lastValue? entries key) = some value := by
  constructor
  · intro h
    cases h with
    | ofEnvironment hset => rw [hset, Option.some_or]
    | ofFile hunset hentries hlast =>
      rw [hunset, Option.none_or]
      exact lastValue?_eq_some_iff.mpr ⟨_, _, hentries, hlast⟩
  · intro h
    cases hset : environment key with
    | some given =>
      rw [hset, Option.some_or] at h
      exact .ofEnvironment (hset.trans h)
    | none =>
      rw [hset, Option.none_or] at h
      obtain ⟨before, after, hentries, hlast⟩ := lastValue?_eq_some_iff.mp h
      exact .ofFile hset hentries hlast

/-- Entries in front of one of the same key do not count. -/
theorem lastValue?_append (entries others : List Entry) (key : String) :
    lastValue? (entries ++ others) key = (lastValue? others key).or (lastValue? entries key) := by
  rw [lastValue?, lastValue?, lastValue?, List.reverse_append, List.find?_append, Option.map_or]

theorem isSome_lastValue? {entries : List Entry} {e : Entry} (h : e ∈ entries) :
    (lastValue? entries e.key).isSome := by
  rw [lastValue?, Option.isSome_map, List.find?_isSome]
  exact ⟨e, List.mem_reverse.mpr h, by simp⟩

theorem lastValue?_of_filter_eq {entries others : List Entry} {key : String}
    (h : entries.filter (·.key = key) = others.filter (·.key = key)) :
    lastValue? entries key = lastValue? others key := by
  rw [lastValue?_eq_getLast?, lastValue?_eq_getLast?, h]

/-- An entry behind which there is another one of its key may as well have another value. -/
theorem lastValue?_of_altered {before after : List Entry} {old new : Entry}
    (hkey : new.key = old.key) (hlater : ∃ later ∈ after, later.key = old.key) (key : String) :
    lastValue? (before ++ new :: after) key = lastValue? (before ++ old :: after) key := by
  have happend : ∀ e : Entry, lastValue? (before ++ e :: after) key =
      (lastValue? after key).or (lastValue? (before ++ [e]) key) := by
    intro e
    rw [← lastValue?_append, List.append_assoc, List.singleton_append]
  rw [happend, happend]
  by_cases hsame : key = old.key
  · obtain ⟨later, hmem, hlaterKey⟩ := hlater
    have hsome := isSome_lastValue? hmem
    rw [hlaterKey, ← hsame] at hsome
    rw [Option.or_of_isSome hsome, Option.or_of_isSome hsome]
  · have hold : ¬ old.key = key := fun h => hsame h.symm
    have hnew : ¬ new.key = key := fun h => hsame (h.symm.trans hkey)
    have hothers : lastValue? (before ++ [new]) key = lastValue? (before ++ [old]) key := by
      apply lastValue?_of_filter_eq
      simp [List.filter_append, hold, hnew]
    rw [hothers]

/-! ## Exports -/

section Keys

variable (environment : String → Option String) (entries : List Entry)

/-- Export tells the build the value of each key and then of the linker script, or it stops at the
first key without a value, having told the values of those before it. By induction on the keys: each
one goes in front of those that follow it, however they end. -/
theorem exportKeys_cases (keys : List String) :
    (∃ values, values.map Prod.fst = keys ∧
      (∀ key value, (key, value) ∈ values → GivenValue environment entries key value) ∧
      exportKeys environment entries keys = ⟨instructions values ++ [.linkScript], none⟩) ∨
    ∃ values key rest, keys = values.map Prod.fst ++ key :: rest ∧
      (∀ key value, (key, value) ∈ values → GivenValue environment entries key value) ∧
      (∀ value, ¬ GivenValue environment entries key value) ∧
      exportKeys environment entries keys =
        ⟨instructions values ++ [.watchKey key], some (.missing key)⟩ := by
  induction keys with
  | nil => exact .inl ⟨[], rfl, nofun, rfl⟩
  | cons key keys ih =>
    rw [exportKeys]
    cases hvalue : (environment key).or (lastValue? entries key) with
    | none =>
      refine .inr ⟨[], key, keys, rfl, nofun, fun value hgiven => ?_, rfl⟩
      rw [givenValue_iff, hvalue] at hgiven
      cases hgiven
    | some value =>
      have hgiven : ∀ values : List (String × String),
          (∀ key value, (key, value) ∈ values → GivenValue environment entries key value) →
          ∀ key' value', (key', value') ∈ (key, value) :: values →
            GivenValue environment entries key' value' := by
        intro values hvalues key' value' hmem
        rcases List.mem_cons.mp hmem with heq | hmem
        · cases heq
          exact givenValue_iff.mpr hvalue
        · exact hvalues key' value' hmem
      rcases ih with ⟨values, hkeys, hvalues, hrest⟩ |
        ⟨values, missing, rest, hkeys, hvalues, hnone, hrest⟩
      · refine .inl ⟨(key, value) :: values, ?_, hgiven values hvalues, ?_⟩
        · rw [List.map_cons, hkeys]
        · rw [hrest]
          rfl
      · refine .inr ⟨(key, value) :: values, missing, rest, ?_, hgiven values hvalues, hnone, ?_⟩
        · rw [List.map_cons, hkeys, List.cons_append]
        · rw [hrest]
          rfl

variable {environment entries} {others : List Entry}

/-- Only the value of each key counts. -/
theorem exportKeys_congr {keys : List String}
    (h : ∀ key ∈ keys, (environment key).or (lastValue? entries key) =
      (environment key).or (lastValue? others key)) :
    exportKeys environment entries keys = exportKeys environment others keys := by
  induction keys with
  | nil => rfl
  | cons key keys ih =>
    rw [exportKeys, exportKeys, h key (List.mem_cons_self ..),
      ih fun other hother => h other (List.mem_cons_of_mem key hother)]

end Keys

/-! ## Files with malformed lines -/

/-- There are entries unless a line is malformed. -/
theorem allEntries_eq (read : List (Option Entry)) :
    allEntries read = if none ∈ read then none else some read.reduceOption := by
  induction read with
  | nil => rfl
  | cons line read ih =>
    cases line with
    | none => simp [allEntries]
    | some e =>
      rw [allEntries, ih]
      by_cases h : none ∈ read
      · simp [h]
      · simp [h]

theorem exportEntries_of_malformed {environment : String → Option String}
    {read : List (Option Entry)} (h : none ∈ read) :
    exportEntries environment read = ⟨[], some .malformedLine⟩ := by
  rw [exportEntries, allEntries_eq, if_pos h]

theorem exportEntries_of_good {environment : String → Option String}
    {read : List (Option Entry)} (h : none ∉ read) :
    exportEntries environment read = exportKeys environment read.reduceOption exportedKeys := by
  rw [exportEntries, allEntries_eq, if_neg h]

/-- The entries of a key in a file, the first one first. -/
def entriesOf (key : String) (read : List (Option Entry)) : List Entry :=
  read.reduceOption.filter (·.key = key)

/-- Two files whose lines are all good, or malformed somewhere, are exported alike when they give
each key the same value. -/
theorem exportEntries_congr {environment : String → Option String}
    {read other : List (Option Entry)} (hgood : none ∈ other ↔ none ∈ read)
    (hvalue : ∀ key ∈ exportedKeys,
      (environment key).or (lastValue? other.reduceOption key) =
        (environment key).or (lastValue? read.reduceOption key)) :
    exportEntries environment other = exportEntries environment read := by
  by_cases h : none ∈ read
  · rw [exportEntries_of_malformed h, exportEntries_of_malformed (hgood.mpr h)]
  · rw [exportEntries_of_good h, exportEntries_of_good (mt hgood.mp h)]
    exact exportKeys_congr hvalue

theorem exportEntries_of_entriesOf_eq {environment : String → Option String}
    {read other : List (Option Entry)} (hgood : none ∈ other ↔ none ∈ read)
    (hentries : ∀ key ∈ exportedKeys, entriesOf key other = entriesOf key read) :
    exportEntries environment other = exportEntries environment read := by
  apply exportEntries_congr hgood
  intro key hkey
  rw [lastValue?_of_filter_eq (hentries key hkey)]

/-- An entry that is overruled by a later one may as well be another. -/
theorem exportEntries_of_altered {environment : String → Option String}
    {before after : List (Option Entry)} {old new : Entry} (hkey : new.key = old.key)
    (hlater : ∃ later, some later ∈ after ∧ later.key = old.key) :
    exportEntries environment (before ++ some new :: after) =
      exportEntries environment (before ++ some old :: after) := by
  apply exportEntries_congr (by simp)
  intro key _
  obtain ⟨later, hmem, hlaterKey⟩ := hlater
  have hlater' : ∃ later ∈ after.reduceOption, later.key = old.key :=
    ⟨later, List.reduceOption_mem_iff.mpr hmem, hlaterKey⟩
  rw [List.reduceOption_append, List.reduceOption_append, List.reduceOption_cons_of_some,
    List.reduceOption_cons_of_some, lastValue?_of_altered hkey hlater']

theorem reduceOption_filter_all (p : Entry → Bool) (read : List (Option Entry)) :
    (read.filter fun line => line.all p).reduceOption = read.reduceOption.filter p := by
  induction read with
  | nil => rfl
  | cons line read ih =>
    cases line with
    | none => simpa using ih
    | some e =>
      by_cases h : p e
      · simpa [h] using ih
      · simpa [h] using ih

/-- Of a key that is set in the environment the file need not have an entry. -/
theorem exportEntries_of_absent {environment : String → Option String} {key value : String}
    (hset : environment key = some value) (read : List (Option Entry)) :
    exportEntries environment (read.filter fun line => line.all (·.key ≠ key)) =
      exportEntries environment read := by
  apply exportEntries_congr (by simp)
  intro other _
  by_cases hsame : other = key
  · rw [hsame, hset, Option.some_or, Option.some_or]
  · have hkept : (read.reduceOption.filter (·.key ≠ key)).filter (·.key = other) =
        read.reduceOption.filter (·.key = other) := by
      rw [List.filter_filter]
      refine List.filter_congr fun e _ => ?_
      by_cases he : e.key = other
      · simp [he, hsame]
      · simp [he]
    rw [reduceOption_filter_all, lastValue?_of_filter_eq hkept]

/-! ## Printed exports -/

section Printed

variable (path : String) (error : Option ExportError) {values : List (String × String)}
  (hkeys : ∀ key ∈ values.map Prod.fst, IsSettingKey key) (last : BuildLine)
include hkeys

/-- What comes through of a run that prints some values and one more instruction. -/
theorem handedOver_run (hlast : last.handsOver = []) :
    handedOver (Export.output ⟨.watchFile path :: (instructions values ++ [last]), error⟩) =
      smuggled path ++ comesThrough values := by
  rw [handedOver_output, List.flatMap_cons, List.flatMap_append, handsOver_watchFile,
    handsOver_instructions hkeys, List.flatMap_singleton, hlast, List.append_nil]

/-- Without an instruction for it, the line of the linker script is among the further lines of the
path or of a value, if it is there at all. -/
theorem linkLine_mem_run (hlast : linkLine ∉ linesWithin last.text) :
    linkLine ∈ endedLines
        (Export.output ⟨.watchFile path :: (instructions values ++ [last]), error⟩) ↔
      ∃ text ∈ path :: values.map Prod.snd, linkLine ∈ furtherLines text := by
  rw [endedLines_output, List.flatMap_cons, List.flatMap_append, List.mem_append, List.mem_append,
    linkLine_mem_watchFile, linkLine_mem_instructions hkeys, List.flatMap_singleton,
    or_iff_left hlast]
  simp only [List.mem_cons, exists_eq_or_imp]

omit hkeys in
/-- The last line of a run that does not stop hands the linker script over. -/
theorem getLast?_run :
    (endedLines (Export.output ⟨.watchFile path :: (instructions values ++ [.linkScript]),
      error⟩)).getLast? = some linkLine := by
  have hline : linesWithin linkLine = [linkLine] := linesWithin_of_not_mem (by decide)
  rw [endedLines_output, ← List.cons_append, List.flatMap_append, List.flatMap_singleton]
  show (_ ++ linesWithin linkLine).getLast? = _
  rw [hline, List.getLast?_concat]

end Printed

theorem exportFile_of_directory {environment : String → Option String} {directory : String}
    (hdirectory : environment directoryVariable = some directory) (read : List (Option Entry)) :
    exportFile environment (some read) =
      ⟨.watchFile (settingsPath directory) :: (exportEntries environment read).lines,
        (exportEntries environment read).error⟩ := by
  rw [exportFile, hdirectory]

/-- Files with the same instructions are exported alike. -/
theorem exportFile_congr {environment : String → Option String} {read other : List (Option Entry)}
    (h : exportEntries environment other = exportEntries environment read) :
    exportFile environment (some other) = exportFile environment (some read) := by
  rw [exportFile, exportFile]
  cases environment directoryVariable with
  | none => rfl
  | some directory => simp only [h]

/-- A build environment that sets one of the keys. -/
def buildEnvironment (level : String) : String → Option String
  | "CONFIG_PACER_PRIMARY_LEVEL" => some level
  | "CARGO_MANIFEST_DIR" => some "/firmware"
  | _ => none

theorem directory_buildEnvironment (level : String) :
    buildEnvironment level directoryVariable = some "/firmware" := rfl

/-- Lines that give one key twice and another one no value. -/
def unfinishedSettings : List (Option Entry) :=
  [some ⟨"CONFIG_PACER_SECONDARY_LEVEL", "1"⟩, some ⟨"CONFIG_PACER_COLOUR", "red"⟩,
   some ⟨"CONFIG_PACER_SECONDARY_LEVEL", "4"⟩, some ⟨"CONFIG_PACER_BLINK_TOGGLE", "n"⟩]

/-- Lines that give each key a value. -/
def finishedSettings : List (Option Entry) :=
  [some ⟨"CONFIG_PACER_PRIMARY_LEVEL", "3"⟩, some ⟨"CONFIG_PACER_SECONDARY_LEVEL", "4"⟩,
   some ⟨"CONFIG_PACER_BLINK_TOGGLE", "0"⟩, some ⟨"CONFIG_PACER_FLASH_SIZE_MB", "8"⟩]

/-- A value whose second line hands over a key of its own. -/
def smugglingValue : String := "3\ncargo:rustc-env=CONFIG_PACER_UNLISTED=9"

/-- The keys with their values when that one is in the environment. -/
def smugglingValues : List (String × String) :=
  [("CONFIG_PACER_PRIMARY_LEVEL", smugglingValue), ("CONFIG_PACER_SECONDARY_LEVEL", "4"),
   ("CONFIG_PACER_BLINK_TOGGLE", "0"), ("CONFIG_PACER_FLASH_SIZE_MB", "8")]

end Metronome
