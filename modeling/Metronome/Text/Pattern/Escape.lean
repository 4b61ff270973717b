import Metronome.Text.Marks
import Metronome.Text.Pattern.State
import Metronome.Text.Pattern.Syntax

/-!
# Escapes in search patterns

A backslash takes the special meaning from a punctuation mark and gives one to a letter.
-/

namespace Metronome

namespace PatternReader

/-- The class of characters that a letter behind a backslash stands for. -/
def class? (c : Char) : Option CharClass :=
  match c with
  | 'd' => some .digits
  | 's' => some .spaces
  | 'w' => some .words
  | _ => none

/-- The character that a letter behind a backslash stands for. -/
def control? (c : Char) : Option Char :=
  match c with
  | 'a' => some (Char.ofNat 7)
  | 'f' => some (Char.ofNat 12)
  | 't' => some '\t'
  | 'n' => some '\n'
  | 'r' => some '\r'
  | 'v' => some (Char.ofNat 11)
  | _ => none

/-- The condition that a character behind a backslash stands for. -/
def anchor? (c : Char) : Option AnchorSign :=
  match c with
  | 'A' => some .textStart
  | 'z' => some .textEnd
  | 'B' => some (.word .noEdge)
  | '<' => some (.word .start)
  | '>' => some (.word .stop)
  | _ => none

/-- Whether a character stands for itself behind a backslash. -/
def isEscapable (c : Char) : Bool := c.toNat < 128 && !c.isAlphanum && c ≠ '<' && c ≠ '>'

/-! ## Characters by their numbers -/

/-- The value of a hexadecimal digit. -/
def hexValue? (c : Char) : Option Nat :=
  if c.isDigit then some (c.toNat - '0'.toNat)
  else if 'a' ≤ c ∧ c ≤ 'f' then some (c.toNat - 'a'.toNat + 10)
  else if 'A' ≤ c ∧ c ≤ 'F' then some (c.toNat - 'A'.toNat + 10)
  else none

/-- Reads a hexadecimal digit. -/
def readHexDigit : PatternReader Nat := do
  let here ← place
  match ← next? with
  | none => fail .escapeUnfinished here here
  | some c =>
    match hexValue? c with
    | none => fail .hexDigit here (here + 1)
    | some d =>
      advance
      return d

/-- Reads a fixed count of hexadecimal digits behind those of value `n`. -/
def readHexDigits (n : Nat) : Nat → PatternReader Nat
  | 0 => return n
  | count + 1 => do readHexDigits (n * 16 + (← readHexDigit)) count

/-- Reads hexadecimal digits up to a closing brace, behind those of value `n`. -/
def readBracedHex (brace : Nat) (n : Option Nat) : Nat → PatternReader (Option Nat)
  | 0 => return n
  | fuel + 1 => do
    match ← next? with
    | none => fail .escapeUnfinished brace (← place)
    | some c =>
      if c = closingBrace then return n
      else readBracedHex brace (some (n.getD 0 * 16 + (← readHexDigit))) fuel

/-- The character of a number, which stands between two places. -/
def charOfNumber (n start stop : Nat) : PatternReader Char :=
  if n.isValidChar then return Char.ofNat n else fail .hexInvalid start stop

/-- Reads a character that is given by its number, in braces or with a fixed count of digits. Two
digits without braces are a byte. -/
def readHex (count : Nat) : PatternReader PatternSign := do
  advance
  let start ← place
  if (← next?) = some openingBrace then
    advance
    let n ← readBracedHex start none ((← rest).length + 1)
    let stop ← place
    advance
    match n with
    | none => fail .hexEmpty start (← place)
    | some n => return .char (← charOfNumber n (start + 1) stop)
  else
    let n ← readHexDigits 0 count
    let c ← charOfNumber n start (← place)
    return if count = 2 then .byte c else .char c

/-! ## Properties -/

/-- Reads the name of a property up to its closing brace, behind the letters in `name`. -/
def readBracedName (name : List Char) : Nat → PatternReader (List Char)
  | 0 => return name
  | fuel + 1 => do
    match ← next? with
    | none => fail .escapeUnfinished (← place) (← place)
    | some c =>
      if c = closingBrace then return name
      advance
      readBracedName (name ++ [c]) fuel

/-- Reads the name of a property of characters, which is a letter or stands in braces. -/
def readProperty : PatternReader PatternSign := do
  advance
  let here ← place
  match ← next? with
  | none => fail .escapeUnfinished here here
  | some c =>
    if c = openingBrace then
      advance
      let name ← readBracedName [] ((← rest).length + 1)
      skip 1
      return .property name
    else if c = backslash then fail .propertyInvalid here (here + 1)
    else
      advance
      return .property [c]

/-! ## Edges of words -/

/-- Whether a character may stand in the name of an edge. -/
def isEdgeLetter (c : Char) : Bool := c.isAlpha || c = '-'

/-- The edge of a name. -/
def edge? (name : String) : Option WordEdge :=
  match name with
  | "start" => some .start
  | "end" => some .stop
  | "start-half" => some .startHalf
  | "end-half" => some .stopHalf
  | _ => none

/-- Reads the letters of an edge's name behind those in `name`. -/
def readEdgeLetters (name : List Char) : Nat → PatternReader (List Char)
  | 0 => return name
  | fuel + 1 => do
    match ← next? with
    | none => return name
    | some c =>
      if isEdgeLetter c then
        advance
        readEdgeLetters (name ++ [c]) fuel
      else return name

/-- Reads the name of an edge in braces behind the backslash at `start` and its letter. Braces that
do not start with a letter are left alone: they hold the bounds of a repetition. -/
def readEdge (start : Nat) : PatternReader WordEdge := do
  if (← next?) ≠ some openingBrace then return .edge
  let before ← get
  advance
  match ← next? with
  | none => fail .edgeOrRepetitionUnclosed start (← place)
  | some c =>
    if !isEdgeLetter c then
      set before
      return .edge
    let first ← place
    let name ← readEdgeLetters [] ((← rest).length + 1)
    let stop ← place
    if (← next?) ≠ some closingBrace then fail .edgeUnclosed before.place stop
    skip 1
    match edge? (String.ofList name) with
    | some e => return e
    | none => fail .edgeUnknown first stop

/-! ## All escapes -/

/-- Reads what is behind the backslash at `start`, where the character `c` is next. -/
def readEscaped (start : Nat) (c : Char) : PatternReader PatternSign := do
  let stop := (← place) + 1
  if c.isDigit then fail .backreference start stop
  else if isEscapable c then
    skip 1
    return .char c
  else if c = 'x' then readHex 2
  else if c = 'u' then readHex 4
  else if c = 'U' then readHex 8
  else if c = 'p' ∨ c = 'P' then readProperty
  else
    skip 1
    if c = 'b' then return .anchor (.word (← readEdge start))
    match class? c.toLower, control? c, anchor? c with
    | some cls, _, _ => return .charClass cls c.isUpper
    | _, some control, _ => return .char control
    | _, _, some a => return .anchor a
    | _, _, _ => fail .escapeUnknown start stop

/-- Reads an escape from its backslash on, and gives the part of the text that it takes. -/
def readEscape : PatternReader (PatternSign × TextSpan) := do
  let start ← place
  skip 1
  match ← next? with
  | none => fail .escapeUnfinished start (← place)
  | some c =>
    let sign ← readEscaped start c
    return (sign, ⟨start, ← place⟩)

end PatternReader

end Metronome
