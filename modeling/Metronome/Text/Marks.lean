/-!
# Punctuation marks

The characters that quote, escape and enclose others.
-/

namespace Metronome

/-- The double quote. -/
def quotationMark : Char := Char.ofNat 34

/-- The single quote. -/
def apostrophe : Char := Char.ofNat 39

/-- The backslash. -/
def backslash : Char := Char.ofNat 92

/-- The curly brace that opens. -/
def openingBrace : Char := Char.ofNat 123

/-- The curly brace that closes. -/
def closingBrace : Char := Char.ofNat 125

end Metronome
