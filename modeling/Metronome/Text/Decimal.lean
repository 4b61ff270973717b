/-!
# Decimal digits

The values of texts of ASCII digits, as far as they fit 32 bits.
-/

namespace Metronome

/-- The value of an ASCII digit. -/
def digitValue? (c : Char) : Option Nat :=
  if 48 ≤ c.toNat ∧ c.toNat ≤ 57 then some (c.toNat - 48) else none

/-- Reads digits behind those whose value is `value`, as long as the number stays below 2^32. -/
def readDigits (value : Nat) : List Char → Option Nat
  | [] => some value
  | c :: cs =>
    match digitValue? c with
    | none => none
    | some d => if value * 10 + d < UInt32.size then readDigits (value * 10 + d) cs else none

end Metronome
