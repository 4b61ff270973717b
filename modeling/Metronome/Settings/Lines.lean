import Metronome.Text.Blank
import Metronome.Text.Marks

/-!
# Lines of a settings file

A line of the file ends at a line break that stands outside of quotes, so a quoted text may go on
over several lines. `#` starts a comment behind a single blank or at the beginning of a line; the
rest of the line then says nothing. Quotes are only looked for here, so that those behind a `#` that
starts no comment are open as well; what they mean is decided when the line is read. A file that
ends in the middle of a line has a malformed last line.
-/

namespace Metronome

/-- Where the reader of a line is. -/
inductive LinePlace where
  | text
  /-- Behind the first of some blanks, where a comment may start. -/
  | blank
  /-- Behind a backslash. -/
  | escaped
  /-- In quotes that end with a mark. -/
  | quoted (mark : Char)
  /-- In quotes behind a backslash. -/
  | quotedEscaped (mark : Char)
  | comment
deriving DecidableEq

namespace LinePlace

/-- The place behind a character outside of quotes that is no blank. -/
def opened (c : Char) : LinePlace :=
  if c = backslash then .escaped
  else if c = quotationMark ∨ c = apostrophe then .quoted c
  else .text

/-- The place behind a character; `started` says whether anything but blanks came before it. -/
def next (started : Bool) : LinePlace → Char → LinePlace
  | .text, c =>
    if c = '#' ∧ !started then .comment
    else if isBlank c ∧ c ≠ '\n' ∧ c ≠ '\r' then .blank
    else opened c
  | .blank, c => if c = '#' then .comment else opened c
  | .escaped, _ => .text
  | .quoted mark, c =>
    if c = backslash then .quotedEscaped mark else if c = mark then .text else .quoted mark
  | .quotedEscaped mark, _ => .quoted mark
  | .comment, c => if c = '\n' then .text else .comment

/-- Whether a file can end at a place. -/
def isEnd (place : LinePlace) : Bool := place = .text || place = .comment

end LinePlace

/-- The lines of a text without their comments, behind what is read of the first of them, which is
`held` in reverse. `none` stands for a line that the text ends in. -/
def splitLines (place : LinePlace) (held : List Char) : List Char → List (Option (List Char))
  | [] => if place.isEnd then [some held.reverse] else [none]
  | c :: cs =>
    let next := place.next (held.any fun c => !isBlank c) c
    if c = '\n' ∧ next = .text then some held.reverse :: splitLines .text [] cs
    else splitLines next (if next = .comment then held else c :: held) cs

end Metronome
