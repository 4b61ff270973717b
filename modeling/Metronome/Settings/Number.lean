import Metronome.Failure
import Metronome.Text.Decimal
import Metronome.Text.Marks

/-!
# Numbers in settings

A setting is a decimal number below 2^32, bare or in one pair of double quotes. Signs, blanks and
other digits are refused.
-/

namespace Metronome

/-- The text without one pair of enclosing double quotes. -/
def unquote : List Char → List Char
  | [] => []
  | c :: cs => if c = quotationMark ∧ cs.getLast? = some quotationMark then cs.dropLast else c :: cs

/-- The number that a setting stands for. -/
def readNumber (setting : String) : Option Nat :=
  match unquote setting.toList with
  | [] => none
  | c :: cs => readDigits 0 (c :: cs)

/-- The number that a setting stands for; aborts when there is none. -/
def readNumberStrict (setting : String) : Except Abort Nat :=
  match readNumber setting with
  | some n => .ok n
  | none => .error ⟨"configuration value is not a decimal u32"⟩

/-- Whether a setting stands for the expected number. -/
def settingMatches (setting : String) (expected : Nat) : Bool := readNumber setting = some expected

end Metronome
