/-!
# Low-water marks

The lowest value ever observed of a figure. An allocator that only reports the current figure is
sampled through such a mark.
-/

namespace Metronome

/-- The lowest value so far. -/
structure LowWaterMark where
  low : Nat
deriving DecidableEq

namespace LowWaterMark

/-- The mark after a reading; its value is the lowest so far. -/
def observe (mark : LowWaterMark) (reading : Nat) : LowWaterMark := ⟨min mark.low reading⟩

/-- A use of a mark: an observation, or only a look at it. -/
abbrev Use := Option Nat

/-- The mark after a use. -/
def use (mark : LowWaterMark) : Use → LowWaterMark
  | some reading => mark.observe reading
  | none => mark

/-- The values that successive uses answer. -/
def answers (mark : LowWaterMark) : List Use → List Nat
  | [] => []
  | u :: us => (mark.use u).low :: answers (mark.use u) us

end LowWaterMark

end Metronome
