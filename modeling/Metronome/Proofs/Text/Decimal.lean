import Metronome.Text.Decimal

/-!
# Texts of digits

A number is refused as soon as the digits read so far are too large, which is no loss since further
digits make it no smaller (`le_ofDigitChars`): leading zeros may go on for ever.

* `readDigits_eq_some_iff`: what the loop over the digits accepts from any value on.
-/

namespace Metronome

theorem digitValue?_of_isDigit {c : Char} (h : c.isDigit) :
    digitValue? c = some (c.toNat - '0'.toNat) := by
  have hrange : 48 ≤ c.toNat ∧ c.toNat ≤ 57 := by
    simpa [Char.isDigit, UInt32.le_iff_toNat_le] using h
  rw [digitValue?, if_pos hrange]
  rfl

theorem digitValue?_of_not_isDigit {c : Char} (h : ¬ c.isDigit) : digitValue? c = none := by
  have hrange : ¬ (48 ≤ c.toNat ∧ c.toNat ≤ 57) := by
    simpa [Char.isDigit, UInt32.le_iff_toNat_le] using h
  rw [digitValue?, if_neg hrange]

theorem readDigits_cons (value : Nat) (c : Char) (cs : List Char) :
    readDigits value (c :: cs) = (digitValue? c).bind fun d =>
      if value * 10 + d < UInt32.size then readDigits (value * 10 + d) cs else none := by
  rw [readDigits]
  cases digitValue? c with
  | none => rfl
  | some d => rfl

/-- A digit goes behind the value so far, if the result fits. -/
theorem readDigits_of_isDigit {c : Char} (h : c.isDigit) (value : Nat) (cs : List Char) :
    readDigits value (c :: cs) =
      let next := 10 * value + (c.toNat - '0'.toNat)
      if next < UInt32.size then readDigits next cs else none := by
  rw [readDigits_cons, digitValue?_of_isDigit h, Option.bind_some, Nat.mul_comm value 10]

theorem readDigits_of_not_isDigit {c : Char} (h : ¬ c.isDigit) (value : Nat) (cs : List Char) :
    readDigits value (c :: cs) = none := by
  rw [readDigits_cons, digitValue?_of_not_isDigit h, Option.bind_none]

/-- More digits never make a number smaller. -/
theorem le_ofDigitChars (value : Nat) (cs : List Char) : value ≤ Nat.ofDigitChars 10 cs value := by
  induction cs generalizing value with
  | nil => exact Nat.le_refl value
  | cons c cs ih =>
    rw [Nat.ofDigitChars_cons]
    have := ih (10 * value + (c.toNat - '0'.toNat))
    omega

/-- Behind digits whose value fits 32 bits, what is read are digits only, and the number is the
value of all of them, which fits as well. -/
theorem readDigits_eq_some_iff {value : Nat} (hvalue : value < UInt32.size) (cs : List Char)
    (n : Nat) :
    readDigits value cs = some n ↔
      (∀ c ∈ cs, c.isDigit) ∧ Nat.ofDigitChars 10 cs value = n ∧ n < UInt32.size := by
  induction cs generalizing value with
  | nil =>
    rw [readDigits, Nat.ofDigitChars_nil, Option.some_inj]
    constructor
    · rintro rfl
      exact ⟨nofun, rfl, hvalue⟩
    · exact fun h => h.2.1
  | cons c cs ih =>
    rw [Nat.ofDigitChars_cons, List.forall_mem_cons]
    by_cases hc : c.isDigit
    · rw [readDigits_of_isDigit hc]
      by_cases hfits : 10 * value + (c.toNat - '0'.toNat) < UInt32.size
      · simp only [hfits, if_true, ih hfits, hc, true_and]
      · -- The digits so far are too large already, and the rest cannot make up for that.
        have hle := le_ofDigitChars (10 * value + (c.toNat - '0'.toNat)) cs
        simp only [hfits, if_false]
        constructor
        · nofun
        · rintro ⟨-, rfl, hlt⟩
          omega
    · rw [readDigits_of_not_isDigit hc]
      simp only [hc, false_and, reduceCtorEq]

/-! ## Decimal texts -/

theorem isDigit_of_mem_toString {n : Nat} {c : Char} (h : c ∈ (toString n).toList) : c.isDigit := by
  have hdigits : (toString n).toList = Nat.toDigits 10 n := Nat.toList_repr
  exact Nat.isDigit_of_mem_toDigits (by decide) (by decide) (hdigits ▸ h)

end Metronome
