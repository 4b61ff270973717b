/-!
# Parts of texts

A place in a text is the number of characters before it. For a reader it is named by its line and
column, which both start at one.
-/

namespace Metronome

/-- A part of a text. -/
structure TextSpan where
  /-- The place where it starts. -/
  start : Nat
  /-- The first place behind it. -/
  stop : Nat
deriving DecidableEq

/-- A place as a reader finds it. -/
structure LineColumn where
  line : Nat := 1
  column : Nat := 1
deriving DecidableEq

namespace LineColumn

/-- The place behind a character. -/
def next (place : LineColumn) (c : Char) : LineColumn :=
  if c = '\n' then { line := place.line + 1 } else { place with column := place.column + 1 }

/-- The place behind the first characters of a text. -/
def behind (text : List Char) (count : Nat) : LineColumn := (text.take count).foldl next {}

end LineColumn

/-- A part of a text as a reader finds it. -/
structure LineSpan where
  start : LineColumn
  stop : LineColumn
deriving DecidableEq

/-- Where a reader finds a part of a text. -/
def TextSpan.lines (text : List Char) (span : TextSpan) : LineSpan :=
  { start := .behind text span.start, stop := .behind text span.stop }

/-- The number of characters, if the part is within a line. -/
def LineSpan.width (span : LineSpan) : Nat := span.stop.column - span.start.column

/-- A line without the carriage return at its end. -/
def withoutReturn (line : List Char) : List Char :=
  if line.getLast? = some '\r' then line.dropLast else line

/-- The lines of a text; a line break at the end starts no line. -/
def linesFrom (held : List Char) : List Char → List (List Char)
  | [] => if held = [] then [] else [held.reverse]
  | c :: cs =>
    if c = '\n' then withoutReturn held.reverse :: linesFrom [] cs else linesFrom (c :: held) cs

/-- The lines of a text. -/
def textLines (text : List Char) : List (List Char) := linesFrom [] text

end Metronome
