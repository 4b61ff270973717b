import Metronome.Proofs.Text.Decimal
import Metronome.Settings.Number

/-!
# Which settings stand for a number

A setting stands for a number when it is written with ASCII digits only, one at least, bare or in
one pair of double quotes, and its value fits 32 bits. `WritesNumber` is that grammar.

* `readNumber_eq_some_iff`: a setting is read as a number exactly when the grammar says so.
* `reads_exactly_written_numbers`: reading, strict reading and matching, for every setting.
-/

namespace Metronome

/-! ## The grammar -/

/-- The text of a setting without the double quotes around it, when it has at least two characters
and both the first and the last are double quotes. -/
def bareSetting (text : List Char) : List Char :=
  if 2 ≤ text.length ∧ text.head? = some quotationMark ∧ text.getLast? = some quotationMark then
    text.tail.dropLast
  else
    text

/-- Without its quotes, the setting is a text of digits whose decimal value is `n` and fits 32
bits. -/
structure WritesNumber (setting : String) (n : Nat) : Prop where
  ne_nil : bareSetting setting.toList ≠ []
  isDigit : ∀ c ∈ bareSetting setting.toList, c.isDigit
  value_eq : Nat.ofDigitChars 10 (bareSetting setting.toList) 0 = n
  lt : n < UInt32.size

/-- A text in double quotes. -/
def inQuotes (text : String) : String :=
  String.ofList (quotationMark :: text.toList ++ [quotationMark])

/-! ## Quotes -/

theorem unquote_eq (text : List Char) : unquote text = bareSetting text := by
  unfold bareSetting
  cases text with
  | nil => rfl
  | cons c cs =>
    cases cs with
    | nil => simp only [unquote, List.getLast?_nil, List.length_singleton, reduceCtorEq, and_false,
        Nat.reduceLeDiff, false_and, if_false]
    | cons d ds =>
      rw [unquote]
      simp only [List.length_cons, List.head?_cons, List.getLast?_cons_cons, List.tail_cons,
        Option.some_inj]
      have hlength : 2 ≤ ds.length + 1 + 1 := by omega
      simp only [hlength, true_and]

theorem bareSetting_of_digits {text : List Char} (h : ∀ c ∈ text, c.isDigit) :
    bareSetting text = text := by
  refine if_neg fun ⟨_, hfirst, _⟩ => ?_
  have hquote := h quotationMark (List.mem_of_mem_head? hfirst)
  exact absurd hquote (by decide)

/-- A quoted text is read without its quotes. -/
theorem bareSetting_inQuotes (text : String) :
    bareSetting (inQuotes text).toList = text.toList := by
  rw [inQuotes, String.toList_ofList, bareSetting, if_pos]
  · rw [List.cons_append, List.tail_cons, List.dropLast_concat]
  · refine ⟨?_, rfl, List.getLast?_concat⟩
    simp only [List.length_append, List.length_cons, List.length_nil]
    omega

/-! ## Reading -/

/-- A number is read from exactly the texts that write it. -/
theorem readNumber_eq_some_iff (setting : String) (n : Nat) :
    readNumber setting = some n ↔ WritesNumber setting n := by
  rw [readNumber, unquote_eq]
  cases hbare : bareSetting setting.toList with
  | nil =>
    constructor
    · nofun
    · exact fun h => absurd hbare h.ne_nil
  | cons c cs =>
    show readDigits 0 (c :: cs) = some n ↔ _
    rw [readDigits_eq_some_iff (by decide), ← hbare]
    constructor
    · rintro ⟨hdigits, hvalue, hlt⟩
      exact ⟨by rw [hbare]; exact List.cons_ne_nil c cs, hdigits, hvalue, hlt⟩
    · exact fun h => ⟨h.isDigit, h.value_eq, h.lt⟩

/-- A setting whose bare text is the decimal text of a 32-bit number is read as that number. -/
theorem readNumber_of_bare {setting : String} {n : UInt32}
    (h : bareSetting setting.toList = (toString n.toNat).toList) :
    readNumber setting = some n.toNat := by
  have hdigits : (toString n.toNat).toList = Nat.toDigits 10 n.toNat := Nat.toList_repr
  refine (readNumber_eq_some_iff _ _).mpr ⟨?_, ?_, ?_, n.toNat_lt_size⟩
  · rw [h, hdigits]
    exact Nat.toDigits_ne_nil
  · rw [h]
    exact fun _ => isDigit_of_mem_toString
  · rw [h, hdigits, Nat.ofDigitChars_ten_toDigits]

/-- A setting is read as the number that it is written as, and as none exactly when it is written as
none. Strict reading ends the program exactly then, and else agrees. A setting matches what it is
written as, and nothing else. The decimal text of a 32-bit number, bare or in quotes, is read as
that number. -/
theorem reads_exactly_written_numbers :
    (∀ setting n, readNumber setting = some n ↔ WritesNumber setting n) ∧
    (∀ setting, readNumber setting = none ↔ ∀ n, ¬ WritesNumber setting n) ∧
    (∀ setting n, readNumberStrict setting = .ok n ↔ WritesNumber setting n) ∧
    (∀ setting abort, readNumberStrict setting = .error abort ↔
      abort = ⟨"configuration value is not a decimal u32"⟩ ∧ ∀ n, ¬ WritesNumber setting n) ∧
    (∀ setting expected, settingMatches setting expected ↔ WritesNumber setting expected) ∧
    ∀ n : UInt32, readNumber (toString n.toNat) = some n.toNat ∧
      readNumber (inQuotes (toString n.toNat)) = some n.toNat := by
  have hnone : ∀ setting, readNumber setting = none ↔ ∀ n, ¬ WritesNumber setting n := by
    intro setting
    simp only [← readNumber_eq_some_iff, Option.eq_none_iff_forall_ne_some, ne_eq]
  refine ⟨readNumber_eq_some_iff, hnone, fun setting n => ?_, fun setting abort => ?_,
    fun setting expected => ?_, fun n => ⟨?_, ?_⟩⟩
  · rw [← readNumber_eq_some_iff, readNumberStrict]
    cases readNumber setting with
    | none => simp only [reduceCtorEq]
    | some m => simp only [Except.ok.injEq, Option.some.injEq]
  · rw [← hnone, readNumberStrict]
    cases readNumber setting with
    | none => simp only [Except.error.injEq, and_true, eq_comm]
    | some m => simp only [reduceCtorEq, and_false]
  · rw [← readNumber_eq_some_iff, settingMatches, decide_eq_true_iff]
  · exact readNumber_of_bare (bareSetting_of_digits fun _ => isDigit_of_mem_toString)
  · exact readNumber_of_bare (bareSetting_inQuotes _)

end Metronome
