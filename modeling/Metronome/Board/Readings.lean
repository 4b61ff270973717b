/-!
# Readings

The values that successive readings of a figure give. The last one repeats.
-/

namespace Metronome

/-- The next reading and those after it. -/
structure Readings where
  current : Nat
  later : List Nat := []
deriving DecidableEq

namespace Readings

/-- The readings after the next one. -/
def advance (r : Readings) : Readings :=
  match r.later with
  | [] => r
  | next :: later => ⟨next, later⟩

/-- The listed readings, or one that repeats when there are none. -/
def ofList (values : List Nat) (repeated : Nat) : Readings :=
  match values with
  | [] => ⟨repeated, []⟩
  | first :: later => ⟨first, later⟩

end Readings

end Metronome
