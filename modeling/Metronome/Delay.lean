import Metronome.Cadence

/-!
# Delay calls

A delay device takes one 32-bit count per call, in one of three units. `Cadence.delays` lists the
calls that sleep for exactly one cadence.
-/

namespace Metronome

/-- One call of a delay device. -/
inductive DelayCall where
  /-- Sleep for some nanoseconds. -/
  | nanos (count : UInt32)
  /-- Sleep for some microseconds. -/
  | micros (count : UInt32)
  /-- Sleep for some milliseconds. -/
  | millis (count : UInt32)
deriving DecidableEq

/-- The whole microseconds that a call sleeps for. -/
def DelayCall.duration : DelayCall → Nat
  | .nanos count => count.toNat / 1000
  | .micros count => count.toNat
  | .millis count => count.toNat * 1000

/-- The largest count of one delay call. -/
def maxDelayCount : Nat := UInt32.size - 1

/-! ## Milliseconds, call by call -/

/-- The most that one call can count of the milliseconds that are left. -/
def millisChunk (left : UInt64) : UInt32 := (min left (UInt64.ofNat maxDelayCount)).toUInt32

/-- The milliseconds that are left after one call. -/
def afterMillisChunk (left : UInt64) : UInt64 := left - (millisChunk left).toUInt64

theorem toNat_millisChunk (left : UInt64) :
    (millisChunk left).toNat = min left.toNat maxDelayCount := by
  have hmin : (min left (UInt64.ofNat maxDelayCount)).toNat = min left.toNat maxDelayCount := by
    show (if left ≤ UInt64.ofNat maxDelayCount then left else UInt64.ofNat maxDelayCount).toNat = _
    split
    · next hle => exact (Nat.min_eq_left (UInt64.le_iff_toNat_le.mp hle)).symm
    · next hlt =>
      have hle := Nat.le_of_not_le (mt UInt64.le_iff_toNat_le.mpr hlt)
      exact (Nat.min_eq_right hle).symm
  have hfits : min left.toNat maxDelayCount < 2 ^ 32 :=
    Nat.lt_of_le_of_lt (Nat.min_le_right ..) (by decide)
  rw [millisChunk, UInt64.toNat_toUInt32, hmin, Nat.mod_eq_of_lt hfits]

theorem toNat_afterMillisChunk (left : UInt64) :
    (afterMillisChunk left).toNat = left.toNat - min left.toNat maxDelayCount := by
  have hle : (millisChunk left).toUInt64 ≤ left := by
    rw [UInt64.le_iff_toNat_le, UInt32.toNat_toUInt64, toNat_millisChunk]
    exact Nat.min_le_left ..
  rw [afterMillisChunk, UInt64.toNat_sub_of_le _ _ hle, UInt32.toNat_toUInt64, toNat_millisChunk]

/-- Each call takes something off the milliseconds that are left. -/
theorem afterMillisChunk_lt {left : UInt64} (h : left ≠ 0) :
    (afterMillisChunk left).toNat < left.toNat := by
  have hleft : left.toNat ≠ 0 := fun hzero => h (UInt64.toNat_inj.mp hzero)
  have hmax : 0 < maxDelayCount := by decide
  rw [toNat_afterMillisChunk]
  omega

/-- Behind the calls that were made, the last one first, sleeps call by call for the milliseconds
that are left. -/
def sleepMillis (made : List DelayCall) (left : UInt64) : List DelayCall :=
  if left = 0 then made.reverse
  else sleepMillis (.millis (millisChunk left) :: made) (afterMillisChunk left)
termination_by left.toNat
decreasing_by exact afterMillisChunk_lt ‹_›

/-- The calls that sleep for one cadence: a single one in microseconds when it fits, else whole
milliseconds call by call and then the microseconds that are left. -/
def Cadence.delays (c : Cadence) : List DelayCall :=
  if c.micros.toNat ≤ maxDelayCount then
    [.micros c.micros.toUInt32]
  else
    let rest := (c.micros % 1000).toUInt32
    sleepMillis [] (c.micros / 1000) ++ if rest = 0 then [] else [.micros rest]

end Metronome
