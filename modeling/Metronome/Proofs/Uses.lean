import Metronome.Driver

/-!
# Uses of a driver

Past the runner, a driver may be set up and stepped in any order, at any instants, and again after
a call that failed. What every call keeps, any uses keep (`holds_afterUses`).
-/

namespace Metronome

/-- A call of a driver at some instant. -/
inductive DriverUse where
  | setUp (now : Nat)
  | step (now : Nat)
deriving DecidableEq

variable {δ δ' : Type} [Driver δ] [Driver δ']

/-- The driver after a call, whatever it came to. -/
def DriverUse.run (d : δ) : DriverUse → δ
  | .setUp now => (Driver.setUp now d).state
  | .step now => (Driver.step now d).state

/-- The driver after some calls. -/
def afterUses (uses : List DriverUse) (d : δ) : δ := uses.foldl DriverUse.run d

theorem afterUses_concat (uses : List DriverUse) (use : DriverUse) (d : δ) :
    afterUses (uses ++ [use]) d = DriverUse.run (afterUses uses d) use := by
  rw [afterUses, List.foldl_append]
  rfl

/-- To hold after any calls, something has to hold before and to be kept by every call. -/
theorem holds_afterUses {motive : δ → Prop}
    (hrun : ∀ use d, motive d → motive (DriverUse.run d use)) {d : δ} (h : motive d)
    (uses : List DriverUse) : motive (afterUses uses d) := by
  induction uses generalizing d with
  | nil => exact h
  | cons use uses ih => exact ih (hrun use d h)

/-- A view of a driver that every call respects is respected by any calls. -/
theorem map_afterUses {f : δ → δ'}
    (hrun : ∀ use d, f (DriverUse.run d use) = DriverUse.run (f d) use) (uses : List DriverUse)
    (d : δ) : f (afterUses uses d) = afterUses uses (f d) := by
  induction uses generalizing d with
  | nil => rfl
  | cons use uses ih =>
    have hrest := ih (DriverUse.run d use)
    rw [hrun] at hrest
    exact hrest

end Metronome
