import Metronome.Text.Pattern.Syntax

/-!
# Search patterns

Regular expressions with conditions on the place between two characters. They are put together by
`ofSet`, `sequence`, `alternatives` and `times`, which keep what is matched and leave out what says
nothing: parts of a sequence are no sequences and no two texts, alternatives are not alternatives
themselves, and those that are single characters are a set.
-/

namespace Metronome

/-- A place in a text, between two characters. -/
structure Spot where
  /-- The character before, unless the text starts here. -/
  before : Option Char
  /-- The character behind, unless the text ends here. -/
  behind : Option Char
deriving DecidableEq

/-- A condition on a place. -/
inductive Anchor where
  | textStart
  | textEnd
  /-- The start of a line; `returns` says whether a carriage return ends one, too. -/
  | lineStart (returns : Bool)
  /-- The end of a line. -/
  | lineEnd (returns : Bool)
  /-- A place at a word; `ascii` says whether words are made of ASCII characters only. -/
  | word (e : WordEdge) (ascii : Bool)
deriving DecidableEq, Hashable

/-- Whether a place is at a word, if words are made of ASCII characters. -/
def WordEdge.holds (spot : Spot) (e : WordEdge) : Bool :=
  let before := spot.before.any CharSet.words.contains
  let behind := spot.behind.any CharSet.words.contains
  match e with
  | .edge => before != behind
  | .noEdge => before == behind
  | .start => !before && behind
  | .stop => before && !behind
  | .startHalf => !before
  | .stopHalf => !behind

/-- Whether a place meets a condition. Words are taken as made of ASCII characters. -/
def Anchor.holds (spot : Spot) : Anchor → Bool
  | .textStart => spot.before.isNone
  | .textEnd => spot.behind.isNone
  | .lineStart returns =>
    spot.before.all (· = '\n') ||
      returns && spot.before = some '\r' && spot.behind ≠ some '\n'
  | .lineEnd returns =>
    if returns then
      spot.behind.all (· = '\r') || spot.behind = some '\n' && spot.before ≠ some '\r'
    else spot.behind.all (· = '\n')
  | .word e _ => e.holds spot

/-- A search pattern. -/
inductive Pattern where
  | empty
  | anchor (a : Anchor)
  /-- Some characters, one after the other. -/
  | literal (text : List Char)
  /-- One character of a set. -/
  | one (set : CharSet)
  | seq (p q : Pattern)
  | alt (p q : Pattern)
  /-- At least `least` and at most `most` times the same pattern. A lazy repetition prefers few
  rounds; what is found does not depend on it. -/
  | repeated (p : Pattern) (least : Nat) (most : Option Nat) (lazy : Bool)
  /-- A pattern whose text is kept. -/
  | group (index : Nat) (p : Pattern)
deriving DecidableEq, Hashable

namespace Pattern

/-- The pattern of one character of a set. -/
def ofSet (set : CharSet) : Pattern :=
  match set.only? with
  | some c => .literal [c]
  | none => .one set

/-! ## Sequences -/

/-- The parts of a pattern that follow one another. -/
def parts : Pattern → List Pattern
  | .empty => []
  | .seq p q => p.parts ++ q.parts
  | p => [p]

/-- A part before others; texts that follow one another are joined. -/
def prepend (p : Pattern) (ps : List Pattern) : List Pattern :=
  match p, ps with
  | .literal text, .literal behind :: qs => .literal (text ++ behind) :: qs
  | _, _ => p :: ps

/-- Some patterns, one after the other. -/
def chain : List Pattern → Pattern
  | [] => .empty
  | [p] => p
  | p :: ps => .seq p (chain ps)

/-- Some patterns, one after the other, as one sequence. -/
def sequence (ps : List Pattern) : Pattern := chain ((ps.flatMap parts).foldr prepend [])

/-- Whether a pattern is a sequence. -/
def isSequence : Pattern → Bool
  | .seq _ _ => true
  | _ => false

/-! ## Alternatives -/

/-- The alternatives of a pattern. -/
def branches : Pattern → List Pattern
  | .alt p q => p.branches ++ q.branches
  | p => [p]

/-- The character that a pattern stands for. -/
def char? : Pattern → Option Char
  | .literal [c] => some c
  | _ => none

/-- The set of characters that a pattern stands for. -/
def set? : Pattern → Option CharSet
  | .one set => some set
  | _ => none

/-- One of some patterns. -/
def fork : List Pattern → Pattern
  | [] => .one .none
  | [p] => p
  | p :: ps => .alt p (fork ps)

/-- One of some patterns that have no common beginning. -/
def choice (ps : List Pattern) : Pattern :=
  match ps.mapM char?, ps.mapM set? with
  | some chars, _ => ofSet (.ofChars chars)
  | none, some sets => ofSet (sets.foldl .union .none)
  | none, none => fork ps

/-- The common beginning of two lists of parts. -/
def shared : List Pattern → List Pattern → List Pattern
  | p :: ps, q :: qs => if p = q then p :: shared ps qs else []
  | _, _ => []

/-- The parts that some sequences begin with. -/
def commonParts : List Pattern → List Pattern
  | [] => []
  | p :: ps => if (p :: ps).all isSequence then (ps.map parts).foldl shared p.parts else []

/-- One of some patterns, where their common beginning is taken out. -/
def alternatives (ps : List Pattern) : Pattern :=
  match ps.flatMap branches with
  | [p] => p
  | ps =>
    let common := commonParts ps
    if common = [] then choice ps
    else
      let ends := ps.map fun p => sequence (p.parts.drop common.length)
      sequence (common ++ [choice (ends.flatMap branches)])

/-! ## Repetitions -/

/-- Whether a pattern takes no character wherever it matches, as its form shows. A set counts as
taking one even if it is empty. -/
def takesNothing : Pattern → Bool
  | .empty | .anchor _ => true
  | .literal text => text.isEmpty
  | .one _ => false
  | .seq p q | .alt p q => p.takesNothing && q.takesNothing
  | .repeated p _ _ _ | .group _ p => p.takesNothing

/-- A pattern a number of times. What takes no character is not needed twice. -/
def times (p : Pattern) (least : Nat) (most : Option Nat) (lazy : Bool) : Pattern :=
  let few := p.takesNothing
  let least := if few then min least 1 else least
  let most := if few then some (min (most.getD 1) 1) else most
  if most = some 0 then .empty
  else if least = 1 ∧ most = some 1 then p
  else .repeated p least most lazy

end Pattern

end Metronome
