import Metronome.Text.Blank
import Metronome.Text.Pattern
import Metronome.Trace

/-!
# Log filters and log lines

A filter is a list of directives separated by commas: a level, a component path with a level, or a
path alone. The directive with the longest path that a record's component starts with decides.
Behind a slash may follow a pattern, which is then searched for in the text of a record. What makes
no sense in a filter is complained about and left out.
-/

namespace Metronome

/-- One directive of a filter. -/
structure LogDirective where
  /-- The beginning of the component paths it is about; without one it is about all. -/
  path : Option String := none
  /-- The rank up to which records pass. -/
  maxRank : Nat
deriving DecidableEq

namespace LogDirective

/-- The length of the path. -/
def pathLength (d : LogDirective) : Nat := (d.path.map String.length).getD 0

/-- Whether a directive is about a component. -/
def isAbout (d : LogDirective) (path : String) : Bool := d.path.all (path.startsWith ·)

/-- The rank of a level's name. -/
def rank? (level : String) : Option Nat :=
  match level.toLower with
  | "off" => some 0
  | "error" => some 1
  | "warn" => some 2
  | "info" => some 3
  | "debug" => some 4
  | "trace" => some 5
  | _ => none

/-- The highest rank. -/
def allRanks : Nat := 5

/-- The directive that a text stands for, or a complaint. -/
def read (text : String) : Except String LogDirective :=
  match text.splitOn "=" with
  | [word] =>
    match rank? word with
    | some maxRank => .ok { maxRank }
    | none => .ok { path := some word, maxRank := allRanks }
  | [path, level] =>
    let level := trimmed level
    if level = "" then .ok { path := some path, maxRank := allRanks }
    else
      match rank? level with
      | some maxRank => .ok { path := some path, maxRank }
      | none => .error s!"invalid logging spec '{level}'"
  | _ => .error s!"invalid logging spec '{text}'"

/-- The directives with one more, which replaces the one with the same path. -/
def insert (d : LogDirective) (directives : List LogDirective) : List LogDirective :=
  if directives.any (·.path = d.path) then
    directives.map fun e => if e.path = d.path then d else e
  else directives ++ [d]

/-- The better of two directives for a path; of two equally good ones the second. -/
def better (best : Option LogDirective) (d : LogDirective) : Option LogDirective :=
  match best with
  | some b => if d.pathLength < b.pathLength then some b else some d
  | none => some d

/-- The rank up to which records of a component pass; none if no directive is about it. -/
def maxRank? (directives : List LogDirective) (path : String) : Option Nat :=
  ((directives.filter (·.isAbout path)).foldl better none).map LogDirective.maxRank

end LogDirective

/-- What a record has to meet. -/
structure LogFilter where
  directives : List LogDirective
  /-- What has to be found in its text. -/
  pattern : Option Pattern := none
deriving DecidableEq

/-- A filter, and what is complained about in the text that it was read from. -/
structure FilterReading where
  filter : LogFilter
  complaints : List String := []
deriving DecidableEq

namespace LogFilter

/-- The filter of some directives; without any only errors pass. -/
def ofDirectives (directives : List LogDirective) (pattern : Option Pattern) : LogFilter :=
  { directives := if directives = [] then [{ maxRank := 1 }] else directives, pattern }

/-- Adds what a part of a text says to the directives and the complaints before it. -/
def readPart (before : List LogDirective × List String) (part : String) :
    List LogDirective × List String :=
  match LogDirective.read part with
  | .ok d => (d.insert before.1, before.2)
  | .error complaint => (before.1, before.2 ++ [complaint])

/-- The directives of a text and the complaints about it. -/
def readDirectives (text : String) : List LogDirective × List String :=
  (((text.splitOn ",").map trimmed).filter (· ≠ "")).foldl readPart ([], [])

/-- The filter that a text stands for. -/
def ofString (text : String) : FilterReading :=
  match text.splitOn "/" with
  | [levels] =>
    let (directives, complaints) := readDirectives levels
    { filter := ofDirectives directives none, complaints }
  | [levels, pattern] =>
    let (directives, complaints) := readDirectives levels
    match Pattern.read pattern with
    | .ok pattern => { filter := ofDirectives directives (some pattern), complaints }
    | .error e =>
      { filter := ofDirectives directives none
        complaints := complaints ++ [s!"invalid regex filter - {e.report pattern}"] }
  | _ =>
    { filter := ofDirectives [] none
      complaints := [s!"invalid logging spec '{text}' (too many '/'s)"] }

/-- The filter when none is given. -/
def standard : LogFilter := { directives := [{ maxRank := 3 }] }

/-- The filter of a text, if one is given. -/
def ofString? (text : Option String) : FilterReading :=
  match text with
  | some text => ofString text
  | none => { filter := standard }

end LogFilter

/-- What is printed about the complaints. -/
def FilterReading.warnings (reading : FilterReading) : String :=
  String.join (reading.complaints.map fun complaint => s!"warning: {complaint}, ignoring it\n")

/-- The name of a severity in log lines, five characters wide. -/
def Severity.label : Severity → String
  | .error => "ERROR"
  | .warn => "WARN "
  | .info => "INFO "
  | .debug => "DEBUG"

/-- The text filled up with blanks on the left to some width. -/
def padLeft (width : Nat) (text : String) : String :=
  String.ofList (List.replicate (width - text.length) ' ') ++ text

/-- The time since the start as it stands in log lines: seconds with three decimal places, at least
eight characters wide. -/
def timeStamp (millis : Nat) : String :=
  let places := toString (1000 + millis % 1000) |>.drop 1
  padLeft 8 s!"{millis / 1000}.{places}" ++ "s"

/-- The text of a record; `stamp` is the time since the start, for records that carry it. -/
def LogRecord.message (stamp : String) (record : LogRecord) : String :=
  if record.timed then s!"[{stamp}] {record.text}" else record.text

/-- The line of a record. -/
def LogRecord.line (stamp : String) (record : LogRecord) : String :=
  s!"[{record.severity.label} {record.source.path}] {record.message stamp}"

/-- Whether a record passes. -/
def LogFilter.passes (filter : LogFilter) (stamp : String) (record : LogRecord) : Bool :=
  match LogDirective.maxRank? filter.directives record.source.path with
  | some maxRank =>
    record.severity.rank ≤ maxRank && filter.pattern.all (·.isFoundIn (record.message stamp))
  | none => false

end Metronome
