import Metronome.Text.Blank
import Metronome.Text.Pattern.Error

/-!
# Readers of search patterns

A reader keeps what is left to read, the number of characters read, and what it has to remember of
the groups before. It stops at the first fault.
-/

namespace Metronome

/-- What a reader of patterns keeps. -/
structure PatternState where
  /-- What is left to read. -/
  rest : List Char
  /-- The number of characters read. -/
  place : Nat := 0
  /-- Whether blanks and comments are skipped. -/
  spaced : Bool := false
  /-- The number of groups whose text is kept. -/
  groups : Nat := 0
  /-- The names of the groups. -/
  names : List (List Char × TextSpan) := []
deriving DecidableEq

/-- A reader of a part of a pattern. -/
abbrev PatternReader := StateT PatternState (Except PatternError)

namespace PatternReader

/-- Stops with a fault. -/
def fail {α : Type} (fault : PatternFault) (start stop : Nat) : PatternReader α :=
  throw (fault.error ⟨start, stop⟩)

/-- The number of characters read. -/
def place : PatternReader Nat := return (← get).place

/-- What is left to read. -/
def rest : PatternReader (List Char) := return (← get).rest

/-- The next character. -/
def next? : PatternReader (Option Char) := return (← rest).head?

/-- Whether nothing is left to read. -/
def atEnd : PatternReader Bool := return (← rest).isEmpty

/-- Skips some characters. -/
def skip (count : Nat) : PatternReader Unit :=
  modify fun st =>
    { st with rest := st.rest.drop count, place := st.place + (st.rest.take count).length }

/-- Skips a text, if it is next. -/
def skipText (text : String) : PatternReader Bool := do
  if text.toList.isPrefixOf (← rest) then
    skip text.length
    return true
  else
    return false

/-- The number of blank characters and characters in comments that come next. -/
def spaceCount (comment : Bool) : List Char → Nat
  | [] => 0
  | c :: cs =>
    if comment then spaceCount (c ≠ '\n') cs + 1
    else if c = '#' then spaceCount true cs + 1
    else if isBlank c then spaceCount false cs + 1
    else 0

/-- Skips blanks and comments where they are skipped. -/
def skipSpace : PatternReader Unit := do
  if (← get).spaced then
    skip (spaceCount false (← rest))

/-- Skips a character, and the blanks and comments behind it. -/
def advance : PatternReader Unit := do
  skip 1
  skipSpace

/-- The character behind the next one, as far as a reader of sets looks: behind blanks, and behind
the first sign of a comment, but not behind what the comment says. -/
def peekSpace : PatternReader (Option Char) := do
  let behind := (← rest).drop 1
  if (← get).spaced then
    let unspaced := match behind.dropWhile isBlank with
      | '#' :: cs => cs.dropWhile isBlank
      | cs => cs
    return unspaced.head?.or behind.head?
  else
    return behind.head?

end PatternReader

end Metronome
