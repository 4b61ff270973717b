import Metronome.Text.Alphanumeric
import Metronome.Text.Decimal
import Metronome.Text.Pattern.Set

/-!
# Reading search patterns

The common notation of regular expressions, read from left to right with the open groups on a stack.
`PatternSyntax.read` gives what is written, or the first fault that keeps it from being a pattern.
-/

namespace Metronome

namespace PatternReader

/-! ## Repetitions -/

/-- Reads the ASCII digits that come next. -/
def readDecimalDigits (digits : List Char) : Nat → PatternReader (List Char)
  | 0 => return digits
  | fuel + 1 => do
    match ← next? with
    | none => return digits
    | some c =>
      if c.isDigit then
        advance
        readDecimalDigits (digits ++ [c]) fuel
      else return digits

/-- Skips blanks, and the comments between them. -/
def skipBlanks : Nat → PatternReader Unit
  | 0 => return ()
  | fuel + 1 => do
    if (← next?).any isBlank then
      advance
      skipBlanks fuel

/-- Reads a decimal number and the blanks around it. The error, if there is one, is left to the
caller. -/
def readCount : PatternReader (Except PatternError Nat) := do
  skip ((← rest).takeWhile isBlank).length
  let start ← place
  let digits ← readDecimalDigits [] ((← rest).length + 1)
  let span : TextSpan := ⟨start, ← place⟩
  skipBlanks ((← rest).length + 1)
  if digits = [] then return .error (PatternFault.repetitionNumberMissing.error span)
  match readDigits 0 digits with
  | some n => return .ok n
  | none => return .error (PatternFault.numberTooLarge.error span)

/-- Reads the bounds of a repetition from the opening brace on, and whether it is lazy. -/
def readBounds : PatternReader (Nat × Option Nat × Bool) := do
  let start ← place
  let unclosed (bad : Bool) : PatternReader Unit := do
    if bad then fail .repetitionUnclosed start (← place)
  advance
  unclosed (← atEnd)
  let least ← readCount
  unclosed (← atEnd)
  let most ←
    if (← next?) = some ',' then do
      advance
      unclosed (← atEnd)
      if (← next?) = some closingBrace then pure none
      else do
        let _ ← least
        some <$> (← readCount)
    else some <$> least
  let least ← least
  unclosed ((← next?) ≠ some closingBrace)
  advance
  let lazy ← skipText "?"
  if most.any (· < least) then fail .repetitionReversed start (← place)
  return (least, most, lazy)

/-- Reads the sign of a repetition and what belongs to it. -/
def readRepetition (c : Char) : PatternReader (Nat × Option Nat × Bool) := do
  if c = openingBrace then readBounds
  else
    skip 1
    let lazy ← skipText "?"
    return (if c = '+' then 1 else 0, if c = '?' then some 1 else none, lazy)

/-! ## Groups -/

/-- Whether a character may stand in the name of a group. -/
def isNameChar (isFirst : Bool) (c : Char) : Bool :=
  c = '_' || if isFirst then isAlphabetic c else isAlphanumeric c || c ∈ ['.', '[', ']']

/-- Reads the name of a group up to its closing angle bracket. -/
def readName : PatternReader Unit := do
  let start ← place
  let name := (← rest).takeWhile (· ≠ '>')
  let valid := (name.take 1).takeWhile (isNameChar true)
  let valid := valid ++ if valid = [] then [] else (name.drop 1).takeWhile (isNameChar false)
  skip valid.length
  let stop ← place
  if valid ≠ name then fail .groupNameInvalid stop (stop + 1)
  if ← atEnd then fail .groupNameUnclosed stop stop
  skip 1
  if name = [] then fail .groupNameEmpty start start
  match (← get).names.find? (·.1 = name) with
  | some (_, earlier) => throw (.faulty .groupNameTaken [earlier, ⟨start, stop⟩])
  | none => modify fun st => { st with names := (name, ⟨start, stop⟩) :: st.names }

/-- The flag of a letter. -/
def flag? (c : Char) : Option PatternFlag :=
  match c with
  | 'i' => some .caseless
  | 'm' => some .lines
  | 's' => some .dotAll
  | 'U' => some .lazy
  | 'u' => some .characters
  | 'R' => some .returns
  | 'x' => some .spaced
  | _ => none

/-- Reads flags up to the colon or parenthesis behind them; `seen` are the characters read. -/
def readFlags (changes : List FlagChange) (seen : List Char) :
    Nat → PatternReader (List FlagChange)
  | 0 => return changes
  | fuel + 1 => do
    let here ← place
    match ← next? with
    | none => fail .flagsUnclosed here here
    | some c =>
      if c = ':' ∨ c = ')' then
        if seen.getLast? = some '-' then fail .negationDangling (here - 1) here
        return changes
      let change ←
        if c = '-' then pure []
        else
          match flag? c with
          | some flag => pure [⟨flag, '-' ∉ seen⟩]
          | none => fail .flagUnknown here (here + 1)
      if c ∈ seen then
        let earlier := here - seen.length + seen.idxOf c
        let fault := if c = '-' then .negationTwice else .flagTwice
        throw (.faulty fault [⟨earlier, earlier + 1⟩, ⟨here, here + 1⟩])
      skip 1
      readFlags (changes ++ change) (seen ++ [c]) fuel

/-- What stands between a parenthesis and the inside of its group. -/
inductive GroupOpening where
  /-- No group, but flags that change from here on. -/
  | flags (changes : List FlagChange)
  | group (index : Option Nat) (changes : List FlagChange)
deriving DecidableEq

/-- Counts a group whose text is kept. -/
def countGroup : PatternReader GroupOpening := do
  modify fun st => { st with groups := st.groups + 1 }
  return .group (some (← get).groups) []

/-- Reads the flags behind a question mark, which follows the parenthesis at `start`. -/
def readFlagGroup (start mark : Nat) : PatternReader GroupOpening := do
  if ← atEnd then fail .groupUnclosed start (start + 1)
  let changes ← readFlags [] [] ((← rest).length + 1)
  let isGroup := (← next?) = some ':'
  let isBare := (← place) = mark + 1
  skip 1
  if isGroup then return .group none changes
  if isBare then fail .repetitionMissing mark mark
  return .flags changes

/-- Reads the beginning of a group from its parenthesis on. -/
def openGroup : PatternReader GroupOpening := do
  let start ← place
  advance
  for text in ["?=", "?!", "?<=", "?<!"] do
    if ← skipText text then fail .lookAround start (← place)
  let inner ← place
  if ← (skipText "?P<" <||> skipText "?<") then
    let group ← countGroup
    readName
    return group
  if ← skipText "?" then readFlagGroup start inner
  else countGroup

/-- Whether blanks are skipped behind some changes of flags. -/
def spacedAfter (changes : List FlagChange) (spaced : Bool) : Bool :=
  changes.foldl (fun spaced change => if change.flag = .spaced then change.on else spaced) spaced

/-! ## Branches -/

/-- What is read of a group, from right to left. -/
structure Branches where
  /-- The place where the first branch starts. -/
  first : Nat
  /-- The branches before the last one. -/
  before : List PatternSyntax := []
  /-- The place where the last branch starts. -/
  start : Nat
  /-- The parts of the last branch. -/
  parts : List PatternSyntax := []

namespace Branches

/-- Nothing read at a place. -/
def none (start : Nat) : Branches := { first := start, start }

/-- The branches with one more part. -/
def push (b : Branches) (part : PatternSyntax) : Branches := { b with parts := part :: b.parts }

/-- The last branch, which ends at a place. -/
def last (b : Branches) (stop : Nat) : PatternSyntax :=
  match b.parts with
  | [] => .empty ⟨b.start, stop⟩
  | [part] => part
  | parts => .sequence parts.reverse ⟨b.start, stop⟩

/-- The branches with a new one behind the stroke at a place. -/
def split (b : Branches) (stroke : Nat) : Branches :=
  { b with before := b.last stroke :: b.before, start := stroke + 1, parts := [] }

/-- The pattern of all branches, which end at a place. -/
def pattern (b : Branches) (stop : Nat) : PatternSyntax :=
  if b.before = [] then b.last stop
  else .choice (b.last stop :: b.before).reverse ⟨b.first, stop⟩

/-- The last part, if it can be repeated. -/
def repeatable? (b : Branches) : Option PatternSyntax := b.parts.head?.filter (·.isRepeatable)

/-- The branches with another last part. -/
def replaceLast (b : Branches) (part : PatternSyntax) : Branches :=
  { b with parts := part :: b.parts.drop 1 }

end Branches

/-- An open group. -/
structure OpenGroup where
  /-- The place of its parenthesis. -/
  start : Nat
  index : Option Nat
  changes : List FlagChange
  /-- Whether blanks are skipped around it. -/
  spaced : Bool
  /-- What is read of the group around it. -/
  around : Branches

/-- Reads a part of a pattern that is neither a group nor a repetition. -/
def readPart (c : Char) : PatternReader PatternSyntax := do
  if c = '[' then return .set (← readSet (← openSet) ((← rest).length + 1))
  if c = backslash then
    let (sign, span) ← readEscape
    return .sign sign span
  let start ← place
  skip 1
  let sign : PatternSign :=
    if c = '.' then .dot
    else if c = '^' then .anchor .caret
    else if c = '$' then .anchor .dollar
    else .char c
  return .sign sign ⟨start, start + 1⟩

/-- Reads what is left of a pattern in some open groups, the innermost first. -/
def readPattern (groups : List OpenGroup) (b : Branches) : Nat → PatternReader PatternSyntax
  | 0 => return b.pattern 0
  | fuel + 1 => do
    skipSpace
    let here ← place
    match ← next? with
    | none =>
      match groups with
      | [] => return b.pattern here
      | group :: _ => fail .groupUnclosed group.start (group.start + 1)
    | some '(' =>
      let spaced := (← get).spaced
      match ← openGroup with
      | .flags changes =>
        modify fun st => { st with spaced := spacedAfter changes spaced }
        readPattern groups (b.push (.flags changes ⟨here, ← place⟩)) fuel
      | .group index changes =>
        modify fun st => { st with spaced := spacedAfter changes spaced }
        readPattern (⟨here, index, changes, spaced, b⟩ :: groups) (.none (← place)) fuel
    | some ')' =>
      match groups with
      | [] => fail .groupUnopened here (here + 1)
      | group :: groups =>
        skip 1
        modify fun st => { st with spaced := group.spaced }
        let part := .group group.index group.changes (b.pattern here) ⟨group.start, here + 1⟩
        readPattern groups (group.around.push part) fuel
    | some '|' =>
      skip 1
      readPattern groups (b.split here) fuel
    | some c =>
      if c ∈ ['*', '+', '?', openingBrace] then
        match b.repeatable? with
        | none => fail .repetitionMissing here here
        | some part =>
          let (least, most, lazy) ← readRepetition c
          let span : TextSpan := ⟨part.span.start, ← place⟩
          readPattern groups (b.replaceLast (.repeated part least most lazy span)) fuel
      else readPattern groups (b.push (← readPart c)) fuel

end PatternReader

/-- What is written in a text. -/
def PatternSyntax.read (text : List Char) : Except PatternError PatternSyntax :=
  (PatternReader.readPattern [] (.none 0) (text.length + 1)).run' { rest := text }

end Metronome
