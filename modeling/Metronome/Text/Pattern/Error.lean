import Metronome.Text.Span

/-!
# Errors of search patterns

Why a text is no pattern, and the report that shows the places of the error in the text.
-/

namespace Metronome

/-- What is wrong with a pattern. -/
inductive PatternFault where
  | repetitionMissing
  | repetitionUnclosed
  | repetitionNumberMissing
  | repetitionReversed
  | numberTooLarge
  | groupUnclosed
  | groupUnopened
  | groupNameEmpty
  | groupNameInvalid
  | groupNameUnclosed
  | groupNameTaken
  | lookAround
  | flagUnknown
  | flagTwice
  | negationTwice
  | negationDangling
  | flagsUnclosed
  | setUnclosed
  | setEscape
  | rangeReversed
  | rangeBoundary
  | escapeUnknown
  | escapeUnfinished
  | backreference
  | hexEmpty
  | hexInvalid
  | hexDigit
  | propertyInvalid
  /-- The braces with the name of an edge of words are not closed. -/
  | edgeUnclosed
  | edgeUnknown
  /-- The text ends in braces that hold the name of an edge or the bounds of a repetition. -/
  | edgeOrRepetitionUnclosed
  /-- More groups, repetitions and sets are within one another than can be followed. -/
  | nestedTooDeep
  /-- The classes of digits, blanks and word characters are known for ASCII only. -/
  | classUnavailable
  /-- Letters in the other case are known for ASCII only. -/
  | caseUnavailable
  /-- No property of characters is known. -/
  | propertyUnknown
  /-- No category of characters is known. -/
  | propertyValueUnknown
  /-- A set of bytes that could cut a character. -/
  | cutsCharacters
  /-- A character in a set of bytes. -/
  | characterInBytes
deriving DecidableEq

/-- How many groups, repetitions and sets may be within one another. -/
def maxNesting : Nat := 250

/-- How many bytes the states of a pattern's automaton may take. -/
def maxAutomatonSize : Nat := 10485760

/-- The text of a fault. -/
def PatternFault.message : PatternFault → String
  | .repetitionMissing => "repetition operator missing expression"
  | .repetitionUnclosed => "unclosed counted repetition"
  | .repetitionNumberMissing => "repetition quantifier expects a valid decimal"
  | .repetitionReversed => "invalid repetition count range, the start must be <= the end"
  | .numberTooLarge => "decimal literal invalid"
  | .groupUnclosed => "unclosed group"
  | .groupUnopened => "unopened group"
  | .groupNameEmpty => "empty capture group name"
  | .groupNameInvalid => "invalid capture group character"
  | .groupNameUnclosed => "unclosed capture group name"
  | .groupNameTaken => "duplicate capture group name"
  | .lookAround => "look-around, including look-ahead and look-behind, is not supported"
  | .flagUnknown => "unrecognized flag"
  | .flagTwice => "duplicate flag"
  | .negationTwice => "flag negation operator repeated"
  | .negationDangling => "dangling flag negation operator"
  | .flagsUnclosed => "expected flag but got end of regex"
  | .setUnclosed => "unclosed character class"
  | .setEscape => "invalid escape sequence found in character class"
  | .rangeReversed => "invalid character class range, the start must be <= the end"
  | .rangeBoundary => "invalid range boundary, must be a literal"
  | .escapeUnknown => "unrecognized escape sequence"
  | .escapeUnfinished => "incomplete escape sequence, reached end of pattern prematurely"
  | .backreference => "backreferences are not supported"
  | .hexEmpty => "hexadecimal literal empty"
  | .hexInvalid => "hexadecimal literal is not a Unicode scalar value"
  | .hexDigit => "invalid hexadecimal digit"
  | .propertyInvalid => "invalid Unicode character class"
  | .edgeUnclosed =>
    "special word boundary assertion is either unclosed or contains an invalid character"
  | .edgeUnknown =>
    "unrecognized special word boundary assertion, valid choices are: start, end, start-half " ++
      "or end-half"
  | .edgeOrRepetitionUnclosed =>
    "found either the beginning of a special word boundary or a bounded repetition on a \\b " ++
      "with an opening brace, but no closing brace"
  | .nestedTooDeep =>
    s!"exceed the maximum number of nested parentheses/brackets ({maxNesting})"
  | .classUnavailable =>
    "Unicode-aware Perl class not found (make sure the unicode-perl feature is enabled)"
  | .caseUnavailable =>
    "Unicode-aware case insensitivity matching is not available " ++
      "(make sure the unicode-case feature is enabled)"
  | .propertyUnknown => "Unicode property not found"
  | .propertyValueUnknown => "Unicode property value not found"
  | .cutsCharacters => "pattern can match invalid UTF-8"
  | .characterInBytes => "Unicode not allowed here"

/-- Why a text is no pattern. -/
inductive PatternError where
  /-- A fault, and the parts of the text that show it, from left to right. -/
  | faulty (fault : PatternFault) (spans : List TextSpan)
  /-- An edge of words that are not made of ASCII characters. -/
  | wordEdge
  /-- The automaton of the pattern would be too large. -/
  | tooLarge
deriving DecidableEq

/-- The error of a fault that one part of the text shows. -/
def PatternFault.error (fault : PatternFault) (span : TextSpan) : PatternError :=
  .faulty fault [span]

/-! ## Reports -/

/-- Some blanks. -/
def blanks (count : Nat) : String := String.ofList (List.replicate count ' ')

/-- The marks below some parts of a line, of which `passed` characters have theirs already. -/
def marks (passed : Nat) : List LineSpan → String
  | [] => ""
  | span :: spans =>
    let before := span.start.column - 1
    let width := max 1 span.width
    blanks (before - passed) ++ String.ofList (List.replicate width '^') ++
      marks (max passed before + width) spans

/-- Some lines of a text, each behind its heading, and the marks of the parts within a line. -/
def markedLines (heading : Nat → String) (spans : List LineSpan) (number : Nat) :
    List (List Char) → String
  | [] => ""
  | line :: lines =>
    let here := spans.filter fun span => span.start.line = number && span.stop.line = number
    let below := if here = [] then "" else
      blanks (heading number).length ++ marks 0 here ++ "\n"
    heading number ++ String.ofList line ++ "\n" ++ below ++
      markedLines heading spans (number + 1) lines

/-- Where a part of a text is that goes over several lines. -/
def LineSpan.description (span : LineSpan) : String :=
  s!"on line {span.start.line} (column {span.start.column}) " ++
    s!"through line {span.stop.line} (column {span.stop.column - 1})\n"

/-- The text with the parts marked. Several lines are numbered and stand between rulers. -/
def showSpans (text : List Char) (spans : List LineSpan) : String :=
  let lines := textLines text
  if '\n' ∈ text then
    let count := if text.getLast? = some '\n' then lines.length + 1 else lines.length
    let width := (toString count).length
    let heading (number : Nat) : String :=
      blanks (width - (toString number).length) ++ s!"{number}: "
    let ruler := String.ofList (List.replicate 79 '~') ++ "\n"
    let wide := spans.filter fun span => span.start.line ≠ span.stop.line
    ruler ++ markedLines heading spans 1 lines ++ ruler ++
      String.join (wide.map LineSpan.description)
  else
    markedLines (fun _ => blanks 4) spans 1 lines

/-- The report of an error in a text. -/
def PatternError.report (text : String) : PatternError → String
  | .faulty fault spans =>
    let shown := showSpans text.toList (spans.map (·.lines text.toList))
    s!"regex parse error:\n{shown}error: {fault.message}"
  | .wordEdge => "error building NFA"
  | .tooLarge => s!"Compiled regex exceeds size limit of {maxAutomatonSize} bytes."

end Metronome
