import Metronome.Text.Pattern.Escape

/-!
# Sets in search patterns

A set in square brackets: characters, ranges, named sets and inner sets, which are united, and the
signs that join two parts of a set in another way.
-/

namespace Metronome

namespace PatternReader

/-- A set whose bracket is open. -/
structure OpenSet where
  /-- The part of the text that opens it. -/
  opening : TextSpan
  negated : Bool
  /-- What is joined with the part that is being read. -/
  joined : Option (SetJoin × SetSyntax) := none
  /-- The place where the part that is being read starts. -/
  start : Nat
  /-- The items of that part, from right to left. -/
  items : List SetSyntax := []

namespace OpenSet

/-- The set with one more item. -/
def add (s : OpenSet) (item : SetSyntax) : OpenSet := { s with items := item :: s.items }

/-- The part that is being read. -/
def part (s : OpenSet) : SetSyntax :=
  match s.items with
  | [] => .empty ⟨s.start, s.start⟩
  | [item] => item
  | last :: items =>
    .union s.items.reverse ⟨(items.getLastD last).span.start, last.span.stop⟩

/-- All that is read. -/
def contents (s : OpenSet) : SetSyntax :=
  match s.joined with
  | some (join, left) => .joined join left s.part ⟨left.span.start, s.part.span.stop⟩
  | none => s.part

/-- The set with a new part, which starts at a place. -/
def join (s : OpenSet) (j : SetJoin) (start : Nat) : OpenSet :=
  { s with joined := some (j, s.contents), start, items := [] }

/-- Stops because the set is not closed. -/
def unclosed {α : Type} (s : OpenSet) : PatternReader α :=
  fail .setUnclosed s.opening.start s.opening.stop

end OpenSet

/-- Reads the dashes that stand for themselves at the beginning of a set. -/
def readDashes (start : Nat) (dashes : List SetSyntax) : Nat → PatternReader (List SetSyntax)
  | 0 => return dashes
  | fuel + 1 => do
    let here ← place
    if (← next?) ≠ some '-' then return dashes
    advance
    if ← atEnd then fail .setUnclosed start start
    readDashes start (.sign (.char '-') ⟨here, here + 1⟩ :: dashes) fuel

/-- Reads the beginning of a set from its bracket on: a sign of negation, and the dashes or the
bracket that stand for themselves there. -/
def openSet : PatternReader OpenSet := do
  let start ← place
  let check : PatternReader Unit := do
    if ← atEnd then fail .setUnclosed start (← place)
  advance
  check
  let negated := (← next?) = some '^'
  if negated then
    advance
    check
  let part ← place
  let mut items ← readDashes start [] ((← rest).length + 1)
  if items.isEmpty ∧ (← next?) = some ']' then
    advance
    check
    items := [.sign (.char ']') ⟨part, part + 1⟩]
  return { opening := ⟨start, ← place⟩, negated, start := part, items }

/-- The named set that a text starts with, whether it is negated, and the number of characters. -/
def namedSet? (text : List Char) : Option (CharSet × Bool × Nat) :=
  match text with
  | '[' :: ':' :: text =>
    let negated := text.head? = some '^'
    let text := if negated then text.drop 1 else text
    let name := text.takeWhile (· ≠ ':')
    if [':', ']'].isPrefixOf (text.drop name.length) then
      (CharSet.named? (String.ofList name)).map fun set =>
        (set, negated, name.length + if negated then 5 else 4)
    else none
  | _ => none

/-- Reads a single element of a set, and gives the part of the text that it takes. -/
def readElement : PatternReader (PatternSign × TextSpan) := do
  if (← next?) = some backslash then readEscape
  else
    let here ← place
    let c := (← next?).getD ' '
    skip 1
    return (.char c, ⟨here, here + 1⟩)

/-- Whether a sign stands for one character. -/
def isChar : PatternSign → Bool
  | .char _ | .byte _ => true
  | _ => false

/-- Whether a sign stands for a place. -/
def isAnchor : PatternSign → Bool
  | .anchor _ => true
  | _ => false

/-- The code point of a sign that stands for one character. -/
def code : PatternSign → Nat
  | .char c | .byte c => c.toNat
  | _ => 0

/-- Reads the second end of a range, whose first end is given. -/
def readRangeEnd (first : PatternSign) (span : TextSpan) : PatternReader SetSyntax := do
  let (last, lastSpan) ← readElement
  if !isChar first then fail .rangeBoundary span.start span.stop
  if !isChar last then fail .rangeBoundary lastSpan.start lastSpan.stop
  if code last < code first then fail .rangeReversed span.start lastSpan.stop
  return .range first span last lastSpan

/-- Reads an element or a range of an open set. A dash before a bracket or another dash makes no
range. -/
def readRange (s : OpenSet) : PatternReader SetSyntax := do
  let (first, span) ← readElement
  skipSpace
  if ← atEnd then s.unclosed
  let behind ← peekSpace
  if (← next?) = some '-' ∧ behind ≠ some ']' ∧ behind ≠ some '-' then
    advance
    if ← atEnd then s.unclosed
    readRangeEnd first span
  else if isAnchor first then fail .setEscape span.start span.stop
  else return .sign first span

/-- Skips what joins two parts of a set, if it is next. -/
def readJoin : PatternReader (Option SetJoin) := do
  if ← skipText "&&" then return some .inter
  if ← skipText "--" then return some .diff
  if ← skipText "~~" then return some .symmDiff
  return none

/-- Reads what is left of an open set. -/
def readSet (s : OpenSet) : Nat → PatternReader SetSyntax
  | 0 => s.unclosed
  | fuel + 1 => do
    skipSpace
    match ← next? with
    | none => s.unclosed
    | some ']' =>
      skip 1
      return .bracketed s.negated s.contents ⟨s.opening.start, ← place⟩
    | some '[' =>
      match namedSet? (← rest) with
      | some (named, negated, count) =>
        let here ← place
        skip count
        readSet (s.add (.named named negated ⟨here, here + count⟩)) fuel
      | none =>
        let inner ← readSet (← openSet) fuel
        readSet (s.add inner) fuel
    | some _ =>
      match ← readJoin with
      | some j => readSet (s.join j (← place)) fuel
      | none => readSet (s.add (← readRange s)) fuel

end PatternReader

end Metronome
