import Metronome.Failure

/-!
# Cadences

The fixed interval that passes between two steps of a driver: a non-zero number of microseconds
that fits 64 bits. Two constructors refuse a bad interval with an abort (`ofMillis`, `ofMicros`),
two report it (`ofMicros?`, `tryOfMillis`).
-/

namespace Metronome

/-! ## Arithmetic on 64-bit words -/

/-- The product, or the largest word when it does not fit. -/
def saturatingMul (a b : UInt64) : UInt64 :=
  if a.toNat * b.toNat < UInt64.size then a * b else UInt64.ofNat (UInt64.size - 1)

/-- The product, when it fits. -/
def checkedMul (a b : UInt64) : Option UInt64 :=
  if a.toNat * b.toNat < UInt64.size then some (a * b) else none

/-! ## The interval -/

/-- A non-zero interval in microseconds. -/
structure Cadence where
  /-- The number of microseconds. -/
  micros : UInt64
  /-- No interval is empty. -/
  ne_zero : micros ≠ 0
deriving DecidableEq

namespace Cadence

/-- An interval of `micros` microseconds; there is none of zero length. -/
def ofMicros? (micros : UInt64) : Option Cadence :=
  if h : micros = 0 then none else some ⟨micros, h⟩

/-- An interval of `micros` microseconds; aborts on zero. -/
def ofMicros (micros : UInt64) : Except Abort Cadence :=
  match ofMicros? micros with
  | some cadence => .ok cadence
  | none => .error ⟨"cadence must be a non-zero number of microseconds"⟩

/-- An interval of `millis` milliseconds; aborts on zero and on an interval beyond 64 bits. -/
def ofMillis (millis : UInt64) : Except Abort Cadence :=
  match ofMicros? (saturatingMul millis 1000) with
  | some cadence =>
    if millis ≤ UInt64.ofNat (UInt64.size - 1) / 1000 then .ok cadence
    else .error ⟨"cadence must be a non-zero number of milliseconds"⟩
  | none => .error ⟨"cadence must be a non-zero number of milliseconds"⟩

/-- An interval of `millis` milliseconds for values that come from a configuration. -/
def tryOfMillis (millis : UInt64) : Except DriverError Cadence :=
  match (checkedMul millis 1000).bind ofMicros? with
  | some cadence => .ok cadence
  | none => .error .invalidCadence

/-- Whole milliseconds, rounded down. -/
def millis (c : Cadence) : UInt64 := c.micros / 1000

/-- One full period of a wave that changes its level once per step, at most the largest word. -/
def squareWavePeriod (c : Cadence) : UInt64 := saturatingMul c.micros 2

/-- Milliseconds when the interval is a whole number of them, microseconds otherwise. -/
def display (c : Cadence) : String :=
  if c.micros.toNat % 1000 = 0 then s!"{c.micros.toNat / 1000} ms" else s!"{c.micros.toNat} us"

instance : Ord Cadence where
  compare a b := compare a.micros b.micros

/-- The microseconds of a cadence are never zero. -/
theorem micros_pos (c : Cadence) : 0 < c.micros.toNat :=
  Nat.pos_of_ne_zero fun h => c.ne_zero (UInt64.toNat_inj.mp (by simpa using h))

end Cadence

end Metronome
