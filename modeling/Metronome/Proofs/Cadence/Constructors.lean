import Mathlib.Algebra.Order.Ring.Nat
import Metronome.Cadence

/-!
# The constructors of cadences

One constructor multiplies with saturation and looks at its argument afterwards, another multiplies
with a check. Both draw the line at the same milliseconds (`ofMillis_of_fits`,
`tryOfMillis_of_fits` and their counterparts), and what they build is what the microseconds say.
-/

namespace Metronome

/-! ## Products of words -/

theorem toNat_mul_of_lt {a b : UInt64} (h : a.toNat * b.toNat < 2 ^ 64) :
    (a * b).toNat = a.toNat * b.toNat := by
  rw [UInt64.toNat_mul, Nat.mod_eq_of_lt h]

theorem toNat_saturatingMul (a b : UInt64) :
    (saturatingMul a b).toNat = min (a.toNat * b.toNat) (2 ^ 64 - 1) := by
  unfold saturatingMul
  split
  · next hfits =>
    have hfits' : a.toNat * b.toNat < 2 ^ 64 := hfits
    rw [toNat_mul_of_lt hfits']
    omega
  · next hover =>
    have hover' : 2 ^ 64 ≤ a.toNat * b.toNat := Nat.le_of_not_lt hover
    have hmax : (UInt64.ofNat (UInt64.size - 1)).toNat = 2 ^ 64 - 1 := rfl
    rw [hmax]
    omega

theorem checkedMul_of_lt {a b : UInt64} (h : a.toNat * b.toNat < 2 ^ 64) :
    checkedMul a b = some (a * b) := if_pos h

theorem checkedMul_of_le {a b : UInt64} (h : 2 ^ 64 ≤ a.toNat * b.toNat) :
    checkedMul a b = none := if_neg (Nat.not_lt.mpr h)

namespace Cadence

/-! ## Microseconds -/

theorem ofMicros?_eq_none_iff {u : UInt64} : ofMicros? u = none ↔ u = 0 := by
  unfold ofMicros?
  split <;> simp [*]

theorem ofMicros?_of_ne {u : UInt64} (h : u ≠ 0) : ofMicros? u = some ⟨u, h⟩ := dif_neg h

theorem ofMicros_of_ne {u : UInt64} (h : u ≠ 0) : ofMicros u = .ok ⟨u, h⟩ := by
  rw [ofMicros, ofMicros?_of_ne h]

theorem ofMicros_zero :
    ofMicros 0 = .error ⟨"cadence must be a non-zero number of microseconds"⟩ := rfl

/-! ## Milliseconds -/

/-- The milliseconds that make a cadence: not none, and no more than fit the word of its
microseconds. -/
def Fits (m : UInt64) : Prop := m ≠ 0 ∧ 1000 * m.toNat < 2 ^ 64

section Fits

variable {m : UInt64}

theorem Fits.toNat_mul (h : Fits m) : (1000 * m).toNat = 1000 * m.toNat := toNat_mul_of_lt h.2

theorem Fits.mul_ne_zero (h : Fits m) : 1000 * m ≠ 0 := by
  intro hzero
  have hnat := h.toNat_mul
  rw [hzero] at hnat
  have hm : m.toNat = 0 := by
    rw [UInt64.toNat_zero] at hnat
    omega
  exact h.1 (UInt64.toNat_inj.mp hm)

/-- The cadence of some milliseconds. -/
def ofFits (h : Fits m) : Cadence := ⟨1000 * m, h.mul_ne_zero⟩

/-- Milliseconds that make no cadence are none at all or too many. -/
theorem not_fits_iff : ¬ Fits m ↔ m = 0 ∨ 2 ^ 64 ≤ 1000 * m.toNat := by
  unfold Fits
  rw [Decidable.not_and_iff_or_not, Decidable.not_not, Nat.not_lt]

/-- The largest milliseconds that the guard of the saturating constructor lets through are the
largest that fit. -/
theorem le_guard_iff : m ≤ UInt64.ofNat (UInt64.size - 1) / 1000 ↔ 1000 * m.toNat < 2 ^ 64 := by
  have hguard : (UInt64.ofNat (UInt64.size - 1) / 1000).toNat = (2 ^ 64 - 1) / 1000 := by
    decide +kernel
  rw [UInt64.le_iff_toNat_le, hguard]
  omega

/-- Milliseconds that fit give the cadence of a thousand times as many microseconds. -/
theorem tryOfMillis_of_fits (h : Fits m) : tryOfMillis m = .ok (ofFits h) := by
  have hlt : m.toNat * (1000 : UInt64).toNat < 2 ^ 64 := Nat.mul_comm 1000 m.toNat ▸ h.2
  unfold tryOfMillis
  rw [checkedMul_of_lt hlt, Option.bind_some, UInt64.mul_comm, ofMicros?_of_ne h.mul_ne_zero]
  rfl

theorem tryOfMillis_of_not_fits (h : ¬ Fits m) : tryOfMillis m = .error .invalidCadence := by
  rcases not_fits_iff.mp h with rfl | hover
  · rfl
  · have hle : 2 ^ 64 ≤ m.toNat * (1000 : UInt64).toNat := Nat.mul_comm 1000 m.toNat ▸ hover
    unfold tryOfMillis
    rw [checkedMul_of_le hle]
    rfl

theorem ofMillis_of_fits (h : Fits m) : ofMillis m = .ok (ofFits h) := by
  have hsat : saturatingMul m 1000 = 1000 * m := by
    have hlt : m.toNat * (1000 : UInt64).toNat < UInt64.size := Nat.mul_comm 1000 m.toNat ▸ h.2
    rw [saturatingMul, if_pos hlt, UInt64.mul_comm]
  unfold ofMillis
  rw [hsat, ofMicros?_of_ne h.mul_ne_zero]
  exact if_pos (le_guard_iff.mpr h.2)

/-- A product that saturates is not zero, so it is the guard that refuses it. -/
theorem ofMillis_of_not_fits (h : ¬ Fits m) :
    ofMillis m = .error ⟨"cadence must be a non-zero number of milliseconds"⟩ := by
  rcases not_fits_iff.mp h with rfl | hover
  · rfl
  · have hguard : ¬ m ≤ UInt64.ofNat (UInt64.size - 1) / 1000 :=
      mt le_guard_iff.mp (Nat.not_lt.mpr hover)
    unfold ofMillis
    cases ofMicros? (saturatingMul m 1000) with
    | none => rfl
    | some c => exact if_neg hguard

end Fits

/-! ## What a cadence says -/

theorem toNat_millis (c : Cadence) : c.millis.toNat = c.micros.toNat / 1000 :=
  UInt64.toNat_div c.micros 1000

theorem millis_ofFits {m : UInt64} (h : Fits m) : (ofFits h).millis = m := by
  have hmicros : (ofFits h).micros.toNat = 1000 * m.toNat := h.toNat_mul
  rw [← UInt64.toNat_inj, toNat_millis, hmicros]
  omega

/-- Two cadences, or as many microseconds as there can be. -/
theorem toNat_squareWavePeriod_eq_min (c : Cadence) :
    c.squareWavePeriod.toNat = min (2 * c.micros.toNat) (2 ^ 64 - 1) := by
  have htwo : (2 : UInt64).toNat = 2 := rfl
  rw [squareWavePeriod, toNat_saturatingMul, htwo, Nat.mul_comm]

theorem compare_eq (a b : Cadence) : compare a b = compare a.micros.toNat b.micros.toNat := by
  show compareOfLessAndEq a.micros b.micros = compareOfLessAndEq a.micros.toNat b.micros.toNat
  simp only [compareOfLessAndEq, UInt64.lt_iff_toNat_lt, UInt64.toNat_inj]

theorem eq_iff_micros_eq {a b : Cadence} : a = b ↔ a.micros = b.micros := by
  constructor
  · intro h
    rw [h]
  · intro h
    cases a
    cases b
    cases h
    rfl

/-- For every number of milliseconds the constructor that aborts does so exactly when the other one
reports an invalid cadence, which is for zero and for whatever does not fit the word of the
microseconds; for all others both build the cadence of their microseconds, which has these
milliseconds. With microseconds it is zero alone that is refused. The milliseconds of a cadence are
its microseconds rounded down, its square wave has twice its microseconds or the most a word can
hold, and cadences are compared by their microseconds. -/
theorem constructors_draw_one_line :
    (∀ m : UInt64,
      ((∃ abort, ofMillis m = .error abort) ↔ tryOfMillis m = .error .invalidCadence) ∧
      (tryOfMillis m = .error .invalidCadence ↔ m = 0 ∨ 2 ^ 64 ≤ 1000 * m.toNat) ∧
      (¬ (m = 0 ∨ 2 ^ 64 ≤ 1000 * m.toNat) → ∃ c, ofMillis m = .ok c ∧ tryOfMillis m = .ok c ∧
        ofMicros (1000 * m) = .ok c ∧ c.micros.toNat = 1000 * m.toNat ∧ c.millis = m)) ∧
    (∀ u : UInt64,
      ((∃ abort, ofMicros u = .error abort) ↔ ofMicros? u = none) ∧
      (ofMicros? u = none ↔ u = 0) ∧
      (u ≠ 0 → ∃ c, ofMicros u = .ok c ∧ ofMicros? u = some c ∧ c.micros = u)) ∧
    (∀ c : Cadence,
      1000 * c.millis.toNat ≤ c.micros.toNat ∧ c.micros.toNat < 1000 * c.millis.toNat + 1000 ∧
      c.squareWavePeriod.toNat = min (2 * c.micros.toNat) (2 ^ 64 - 1) ∧
      c.micros ≤ c.squareWavePeriod) ∧
    ∀ a b : Cadence,
      compare a b = compare a.micros.toNat b.micros.toNat ∧
      (a = b ↔ a.micros.toNat = b.micros.toNat) := by
  refine ⟨fun m => ?_, fun u => ?_, fun c => ?_, fun a b => ?_⟩
  · by_cases hfits : Fits m
    · have hline : ¬ (m = 0 ∨ 2 ^ 64 ≤ 1000 * m.toNat) := fun h => not_fits_iff.mpr h hfits
      have htry := tryOfMillis_of_fits hfits
      have hof := ofMillis_of_fits hfits
      refine ⟨?_, ?_, fun _ => ⟨ofFits hfits, hof, htry, ofMicros_of_ne hfits.mul_ne_zero,
        hfits.toNat_mul, millis_ofFits hfits⟩⟩
      · rw [hof, htry]
        simp
      · rw [htry]
        simpa using hline
    · have hline := not_fits_iff.mp hfits
      have htry := tryOfMillis_of_not_fits hfits
      have hof := ofMillis_of_not_fits hfits
      exact ⟨⟨fun _ => htry, fun _ => ⟨_, hof⟩⟩, ⟨fun _ => hline, fun _ => htry⟩,
        fun h => absurd hline h⟩
  · by_cases hzero : u = 0
    · subst hzero
      exact ⟨⟨fun _ => rfl, fun _ => ⟨_, ofMicros_zero⟩⟩, ofMicros?_eq_none_iff,
        fun h => absurd rfl h⟩
    · have hof := ofMicros_of_ne hzero
      have hof? := ofMicros?_of_ne hzero
      refine ⟨?_, ofMicros?_eq_none_iff, fun _ => ⟨⟨u, hzero⟩, hof, hof?, rfl⟩⟩
      rw [hof, hof?]
      simp
  · have hmillis := c.toNat_millis
    have hperiod := c.toNat_squareWavePeriod_eq_min
    have hword := c.micros.toNat_lt
    refine ⟨by omega, by omega, hperiod, ?_⟩
    rw [UInt64.le_iff_toNat_le, hperiod]
    omega
  · refine ⟨compare_eq a b, ?_⟩
    rw [eq_iff_micros_eq, UInt64.toNat_inj]

/-- The line, from both sides. -/
theorem largest_millis_on_the_line :
    ¬ ((18446744073709551 : UInt64) = 0 ∨ 2 ^ 64 ≤ 1000 * (18446744073709551 : UInt64).toNat) ∧
    (∃ c, ofMillis 18446744073709551 = .ok c ∧ tryOfMillis 18446744073709551 = .ok c ∧
      c.micros.toNat = 18446744073709551000) ∧
    (∃ abort, ofMillis 18446744073709552 = .error abort) := by
  obtain ⟨hmillis, -⟩ := constructors_draw_one_line
  have hfits : ¬ ((18446744073709551 : UInt64) = 0 ∨
      2 ^ 64 ≤ 1000 * (18446744073709551 : UInt64).toNat) := by decide +kernel
  obtain ⟨c, hof, htry, -, hmicros, -⟩ := (hmillis 18446744073709551).2.2 hfits
  obtain ⟨habort, hline, -⟩ := hmillis 18446744073709552
  refine ⟨hfits, ⟨c, hof, htry, hmicros⟩, habort.mpr (hline.mpr (Or.inr ?_))⟩
  decide +kernel

end Cadence

end Metronome
