import Mathlib.Logic.Function.Basic
import Metronome.Demo.Scripted
import Metronome.Proofs.Cadence.Constructors
import Metronome.Proofs.Runner.Rounds
import Metronome.Proofs.Text.Decimal
import Metronome.Proofs.Text.Lines
import Metronome.Runner.Endless

/-!
# The text of a cadence

A cadence is shown as a number of milliseconds, or of microseconds when it is not a whole number of
milliseconds. A text can be read as a number of some unit in one way only (`Reads.unique`), so the
text of a cadence tells the cadence, also at the end of a line (`readyText_inj_iff`).
-/

namespace Metronome

/-! ## Numbers of a unit -/

/-- The digits of a decimal number, with no zero in front of it. -/
structure Numeral (digits : List Char) (n : Nat) : Prop where
  ne_nil : digits ≠ []
  isDigit : ∀ c ∈ digits, c.isDigit
  unpadded : digits.head? = some '0' → digits = ['0']
  value_eq : Nat.ofDigitChars 10 digits 0 = n

/-- The units that a cadence is displayed in. -/
inductive TimeUnit where
  | millis
  | micros
deriving DecidableEq

namespace TimeUnit

/-- How a unit is written. -/
def symbol : TimeUnit → String
  | .millis => "ms"
  | .micros => "us"

/-- The microseconds of the unit. -/
def length : TimeUnit → Nat
  | .millis => 1000
  | .micros => 1

theorem space_not_mem_symbol (unit : TimeUnit) : ' ' ∉ unit.symbol.toList := by
  cases unit <;> decide

theorem symbol_toList_inj {unit other : TimeUnit} (h : unit.symbol.toList = other.symbol.toList) :
    unit = other := by
  cases unit <;> cases other <;> first | rfl | exact absurd h (by decide)

end TimeUnit

/-- The text is a decimal number, a space and the symbol of a unit. -/
def Reads (text : String) (n : Nat) (unit : TimeUnit) : Prop :=
  ∃ digits, Numeral digits n ∧ text.toList = digits ++ ' ' :: unit.symbol.toList

theorem Numeral.space_not_mem {digits : List Char} {n : Nat} (h : Numeral digits n) :
    ' ' ∉ digits := fun hspace => absurd (h.isDigit ' ' hspace) (by decide)

/-- The text is cut at its space, and both the number and the unit are read off the parts. -/
theorem Reads.unique {text : String} {n m : Nat} {unit other : TimeUnit} (h : Reads text n unit)
    (h' : Reads text m other) : n = m ∧ unit = other := by
  obtain ⟨digits, hdigits, htext⟩ := h
  obtain ⟨digits', hdigits', htext'⟩ := h'
  rw [htext] at htext'
  obtain ⟨rfl, hsymbol⟩ :=
    append_cons_inj_of_not_mem hdigits.space_not_mem hdigits'.space_not_mem htext'
  exact ⟨hdigits.value_eq.symm.trans hdigits'.value_eq, TimeUnit.symbol_toList_inj hsymbol⟩

/-! ## Decimal texts without leading zeros -/

/-- The first digit is that of the number without its last one. -/
theorem head?_toDigits_of_le {n : Nat} (h : 10 ≤ n) :
    (Nat.toDigits 10 n).head? = (Nat.toDigits 10 (n / 10)).head? := by
  rw [Nat.toDigits_of_base_le (by decide) h]
  have hne : Nat.toDigits 10 (n / 10) ≠ [] := Nat.toDigits_ne_nil
  obtain ⟨d, digits, hfront⟩ := List.exists_cons_of_ne_nil hne
  rw [hfront]
  rfl

/-- Only zero begins with a zero. By induction on the digits, since the first digit of a number is
that of the number without its last one, until one digit is left. -/
theorem head?_toDigits_ne {n : Nat} (h : 0 < n) : (Nat.toDigits 10 n).head? ≠ some '0' := by
  induction n using Nat.strongRecOn with
  | ind n ih =>
    by_cases hsmall : n < 10
    · rw [Nat.toDigits_of_lt_base hsmall]
      simp only [List.head?_cons, ne_eq, Option.some.injEq, Nat.digitChar_eq_zero]
      omega
    · rw [head?_toDigits_of_le (by omega)]
      exact ih (n / 10) (by omega) (by omega)

/-- Lean writes numbers as such numerals. -/
theorem numeral_toString (n : Nat) : Numeral (toString n).toList n := by
  have hdigits : (toString n).toList = Nat.toDigits 10 n := Nat.toList_repr
  refine ⟨?_, fun _ => isDigit_of_mem_toString, fun hhead => ?_, ?_⟩
  · rw [hdigits]
    exact Nat.toDigits_ne_nil
  · rw [hdigits] at hhead ⊢
    rcases Nat.eq_zero_or_pos n with rfl | hpos
    · rfl
    · exact absurd hhead (head?_toDigits_ne hpos)
  · rw [hdigits, Nat.ofDigitChars_ten_toDigits]

namespace Cadence

/-! ## The text -/

/-- The unit that a cadence is displayed in: milliseconds where they are exact. -/
def unit (c : Cadence) : TimeUnit := if c.micros.toNat % 1000 = 0 then .millis else .micros

/-- The cadence as a number of its unit. -/
def count (c : Cadence) : Nat := c.micros.toNat / c.unit.length

theorem unit_eq_millis_iff (c : Cadence) : c.unit = .millis ↔ c.micros.toNat % 1000 = 0 := by
  unfold unit
  split <;> simp [*]

/-- Nothing is rounded off: milliseconds are chosen only where they divide the cadence. -/
theorem count_mul_length (c : Cadence) : c.count * c.unit.length = c.micros.toNat := by
  unfold count unit
  split
  · simp only [TimeUnit.length]
    omega
  · simp only [TimeUnit.length]
    omega

theorem toList_display (c : Cadence) :
    c.display.toList = (toString c.count).toList ++ ' ' :: c.unit.symbol.toList := by
  unfold display count unit
  split
  · exact String.toList_append
  · rw [TimeUnit.length, Nat.div_one]
    exact String.toList_append

theorem reads_display (c : Cadence) : Reads c.display c.count c.unit :=
  ⟨_, numeral_toString c.count, c.toList_display⟩

/-- A display can be read in one way only. -/
theorem reads_display_iff (c : Cadence) (n : Nat) (unit : TimeUnit) :
    Reads c.display n unit ↔ n = c.count ∧ unit = c.unit := by
  constructor
  · exact fun h => h.unique c.reads_display
  · rintro ⟨rfl, rfl⟩
    exact c.reads_display

theorem display_injective : Function.Injective display := by
  intro a b h
  have hread : Reads b.display a.count a.unit := h ▸ a.reads_display
  obtain ⟨hcount, hunit⟩ := hread.unique b.reads_display
  have hmicros : a.micros.toNat = b.micros.toNat := by
    rw [← count_mul_length, ← count_mul_length, hcount, hunit]
  exact eq_iff_micros_eq.mpr (UInt64.toNat_inj.mp hmicros)

/-! ## Lines that end with a cadence -/

/-- The line that closes a setup. -/
def readyText (name : String) (c : Cadence) : String :=
  s!"{name}: ready, stepping every {c.display}"

/-- Whatever stands in front of it, the text of a cadence is the last two words: cut in front of the
unit and then in front of the number, neither of which holds a space. -/
theorem append_display_inj {front front' : List Char} {a b : Cadence}
    (h : front ++ ' ' :: a.display.toList = front' ++ ' ' :: b.display.toList) :
    front = front' ∧ a = b := by
  have hwords := h
  rw [toList_display, toList_display, ← List.cons_append, ← List.cons_append, ← List.append_assoc,
    ← List.append_assoc] at hwords
  obtain ⟨hnumbers, -⟩ := append_cons_inj_of_not_mem_right a.unit.space_not_mem_symbol
    b.unit.space_not_mem_symbol hwords
  obtain ⟨rfl, -⟩ := append_cons_inj_of_not_mem_right (numeral_toString a.count).space_not_mem
    (numeral_toString b.count).space_not_mem hnumbers
  have hdisplay := (List.cons.inj (List.append_cancel_left h)).2
  exact ⟨rfl, display_injective (String.toList_inj.mp hdisplay)⟩

theorem toList_readyText (name : String) (c : Cadence) :
    (readyText name c).toList =
      (name.toList ++ ": ready, stepping every".toList) ++ ' ' :: c.display.toList := by
  have htext : readyText name c = name ++ ": ready, stepping every " ++ c.display := rfl
  have hspace : ": ready, stepping every ".toList = ": ready, stepping every".toList ++ [' '] := by
    decide +kernel
  rw [htext, String.toList_append, String.toList_append, hspace]
  simp only [List.append_assoc, List.singleton_append]

/-- The line tells the name and the cadence apart. -/
theorem readyText_inj_iff {name other : String} {a b : Cadence} :
    readyText name a = readyText other b ↔ name = other ∧ a = b := by
  constructor
  · intro h
    have hlists := congrArg String.toList h
    rw [toList_readyText, toList_readyText] at hlists
    obtain ⟨hfront, hcadence⟩ := append_display_inj hlists
    exact ⟨String.toList_inj.mp (List.append_cancel_right hfront), hcadence⟩
  · rintro ⟨rfl, rfl⟩
    rfl

end Cadence

namespace Runner

variable {δ : Type} [Driver δ]

theorem trace_ensureReady_prefix_runFor (r : Runner δ) (limit : Nat) :
    r.ensureReady.trace <+: (r.runFor limit).trace := by
  simp only [runFor]
  split
  · exact List.prefix_append ..
  · exact List.prefix_refl _
  · exact List.prefix_refl _

theorem trace_ensureReady_prefix_run (r : Runner δ) (budget : Nat) :
    r.ensureReady.trace <+: (r.run budget).trace := by
  simp only [run]
  split
  · exact List.prefix_append ..
  · exact List.prefix_append ..
  · exact List.prefix_refl _

end Runner

namespace Cadence

/-- The text of a cadence can be read as a number of some unit, and in one way only: in milliseconds
exactly when these divide it, and always to the microsecond. So no two cadences look the same. The
line behind the driver's setup, in a bounded run as in the endless one, is that of no other cadence
than the driver has at that moment, whatever name it is read with. -/
theorem display_tells_cadence :
    (∀ c : Cadence, ∃ n unit,
      (∀ m other, Reads c.display m other ↔ m = n ∧ other = unit) ∧
      (unit = .millis ↔ c.micros.toNat % 1000 = 0) ∧ n * unit.length = c.micros.toNat) ∧
    Function.Injective display ∧
    ∀ {δ : Type} [Driver δ] (r : Runner δ), r.ready = false → r.prepared.outcome = .done () →
      ∃ line,
        (∀ limit, r.opening :: r.prepared.trace ++ [Runner.record .info line] <+:
          (r.runFor limit).trace) ∧
        (∀ budget, r.opening :: r.prepared.trace ++ [Runner.record .info line] <+:
          (r.run budget).trace) ∧
        ∀ name c, line = readyText name c ↔
          name = r.name ∧ c = Driver.cadence r.prepared.state := by
  refine ⟨fun c => ?_, display_injective, fun r hpending hdone => ?_⟩
  · exact ⟨c.count, c.unit, c.reads_display_iff, c.unit_eq_millis_iff, c.count_mul_length⟩
  · have htrace : r.ensureReady.trace = r.opening :: r.prepared.trace ++ [r.closing] := by
      rw [Runner.ensureReady_of_pending hpending, hdone]
    refine ⟨readyText r.name (Driver.cadence r.prepared.state), fun limit => ?_, fun budget => ?_,
      fun name c => ?_⟩
    · exact htrace ▸ r.trace_ensureReady_prefix_runFor limit
    · exact htrace ▸ r.trace_ensureReady_prefix_run budget
    · rw [readyText_inj_iff, eq_comm, @eq_comm _ _ c]

/-- A driver whose name looks like the line of another cadence. -/
def misnamed : Runner ScriptedDriver where
  device := { name := "lamp: ready, stepping every 5 ms", cadence := ⟨1500, by decide⟩ }
  system := .noting "lamp"

/-- A driver whose name looks like the rest of the line. -/
theorem misnamed_line_tells_cadence :
    misnamed.ready = false ∧ misnamed.prepared.outcome = .done () ∧
    ∃ line,
      [misnamed.opening, .countedSetup, Runner.record .info line] <+: (misnamed.runFor 0).trace ∧
      ∀ name c, line = readyText name c → c.micros = 1500 := by
  obtain ⟨-, -, hlines⟩ := display_tells_cadence
  obtain ⟨line, hrun, -, hline⟩ := hlines misnamed rfl rfl
  refine ⟨rfl, rfl, line, hrun 0, fun name c h => ?_⟩
  obtain ⟨-, rfl⟩ := (hline name c).mp h
  rfl

end Cadence

end Metronome
