import Metronome.Text.Pattern.Basic
import Metronome.Text.Utf8Ranges

/-!
# The size of a pattern's automaton

A pattern is only searched for if an automaton that reads bytes, and one that reads them backward,
can be held in memory. The size is counted in bytes for all states: each state has a fixed part, and
more for each range of bytes and for each state that it may go on to. Repetitions have a copy of the
states for each round.
-/

namespace Metronome

/-- The bytes of a state. -/
def stateSize : Nat := 32

/-- The bytes of a range of bytes in a state with several of them. -/
def rangeSize : Nat := 8

/-- The bytes of a state that another one may go on to without reading. -/
def exitSize : Nat := 4

/-- The bytes of a state with two ways to go on. -/
def forkSize : Nat := stateSize + 2 * exitSize

/-! ## Sets -/

/-- The ranges that some sequences start with. -/
def firstRanges (sequences : List (List ByteRange)) : List ByteRange :=
  (sequences.filterMap List.head?).eraseDups

/-- The sequences behind a first range. -/
def behindRange (sequences : List (List ByteRange)) (r : ByteRange) : List (List ByteRange) :=
  sequences.filterMap fun s => if s.head? = some r then s.tail? else none

/-- The sequences themselves and those left behind each beginning of them, with `depth` ranges at
most in a sequence. -/
def leftSequences (depth : Nat) (sequences : List (List ByteRange)) :
    List (List (List ByteRange)) :=
  match depth with
  | 0 => []
  | depth + 1 =>
    let ranges := firstRanges sequences
    if ranges = [] then []
    else sequences :: ranges.flatMap fun r => leftSequences depth (behindRange sequences r)

/-- The size of a set's states that read forward. States with the same bytes left are one state. -/
def CharSet.forwardSize (s : CharSet) : Nat :=
  let states := (leftSequences 4 s.utf8).eraseDups
  let sizes := states.map fun state => stateSize + rangeSize * (firstRanges state).length
  sizes.foldl (· + ·) stateSize

/-- The beginnings of a sequence, but for the empty one. -/
def beginnings (bytes : List ByteRange) : List (List ByteRange) :=
  (List.range bytes.length).map fun count => bytes.take (count + 1)

/-- The size of a set's states that read backward. States are shared where the bytes before them are
the same. -/
def CharSet.backwardSize (s : CharSet) : Nat :=
  let shared := (s.utf8.flatMap beginnings).eraseDups
  2 * stateSize + exitSize * s.utf8.length + stateSize * shared.length

/-- The size of a set's states. -/
def CharSet.size (backward : Bool) (s : CharSet) : Nat :=
  if s.isAscii then 2 * stateSize + rangeSize * s.ranges.length
  else if backward then s.backwardSize
  else s.forwardSize

/-! ## Texts -/

/-- The runs of texts between those that are empty. -/
def textRuns : List (List Nat) → List (List (List Nat))
  | [] => [[]]
  | text :: texts =>
    match textRuns texts with
    | [] => [[text]]
    | run :: runs => if text = [] then [] :: run :: runs else (text :: run) :: runs

/-- The bytes that some texts start with. -/
def firstBytes (texts : List (List Nat)) : List Nat := (texts.filterMap List.head?).eraseDups

/-- The size of the state that reads the first byte of a run of texts, and of the way to it. -/
def runSize (texts : List (List Nat)) : Nat :=
  match firstBytes texts with
  | [] => 0
  | [_] => exitSize + stateSize
  | bytes => exitSize + stateSize + rangeSize * bytes.length

/-- The size of the states that read one of some texts, which have less than `depth` bytes. Texts
share the states of their beginnings as far as no text ends between them; of the empty texts before
all others only one counts. -/
def textTreeSize (depth : Nat) (texts : List (List Nat)) : Nat :=
  match depth with
  | 0 => 0
  | depth + 1 =>
    if texts.all List.isEmpty then 0
    else
      let texts := if texts.head? = some [] then [] :: texts.dropWhile List.isEmpty else texts
      let runs := textRuns texts
      let inner := runs.flatMap fun run => (firstBytes run).map fun byte =>
        textTreeSize depth (run.filterMap fun text =>
          if text.head? = some byte then text.tail? else none)
      stateSize + exitSize * (runs.length - 1) + (runs.map runSize).sum + inner.sum

/-- The size of the states that read one of some texts. -/
def textsSize (backward : Bool) (texts : List (List Char)) : Nat :=
  let texts := texts.map fun text =>
    let bytes := utf8Bytes text
    if backward then bytes.reverse else bytes
  stateSize + textTreeSize ((texts.map List.length).foldl max 0 + 1) texts

/-! ## Patterns -/

namespace Pattern

/-- The text that a pattern stands for. -/
def text? : Pattern → Option (List Char)
  | .literal text => some text
  | _ => none

/-- The least number of characters that a pattern takes. None is known if a set is empty. -/
def least? : Pattern → Option Nat
  | .empty | .anchor _ => some 0
  | .literal text => some text.length
  | .one set => if set.ranges = [] then none else some 1
  | .seq p q => return (← p.least?) + (← q.least?)
  | .alt p q => return min (← p.least?) (← q.least?)
  | .repeated p least _ _ => p.least?.map (· * least)
  | .group _ p => p.least?

/-- The size of repeated states, where the states of one round have a size. Rounds that may be left
out can each be left; without a bound the last round goes back to itself. -/
def repeatedSize (round : Nat) (takes : Bool) (least : Nat) (most : Option Nat) : Nat :=
  match most with
  | none =>
    if least = 0 then round + forkSize + if takes then 0 else forkSize + stateSize
    else least * round + forkSize
  | some most =>
    if most = least then least * round
    else
      let required := if least = 0 ∧ most ≠ 1 then stateSize else least * round
      required + stateSize + (most - least) * (round + forkSize)

/-- The size of a pattern's states; `inner` says whether it is one of several alternatives that are
counted already. -/
def innerSize (backward inner : Bool) : Pattern → Nat
  | .empty | .anchor _ => stateSize
  | .literal text => stateSize * (utf8Bytes text).length
  | .one set => set.size backward
  | .seq p q => p.innerSize backward false + q.innerSize backward false
  | .alt p q =>
    match if inner then none else (branches (.alt p q)).mapM text? with
    | some texts => textsSize backward texts
    | none =>
      p.innerSize backward false + q.innerSize backward true +
        if inner then exitSize else 2 * stateSize + 2 * exitSize
  | .repeated p least most _ =>
    repeatedSize (p.innerSize backward false) (p.least?.any (0 < ·)) least most
  | .group _ p => p.innerSize backward false + if backward then 0 else 2 * stateSize

/-- Whether a pattern can only match at the start of a text, as its form shows. -/
def startsText : Pattern → Bool
  | .anchor .textStart => true
  | .seq p q => p.startsText || p.takesNothing && q.startsText
  | .alt p q => p.startsText && q.startsText
  | .repeated p least _ _ => 0 < least && p.startsText
  | .group _ p => p.startsText
  | _ => false

/-- Whether a pattern can only match at the end of a text, as its form shows. -/
def endsText : Pattern → Bool
  | .anchor .textEnd => true
  | .seq p q => q.endsText || q.takesNothing && p.endsText
  | .alt p q => p.endsText && q.endsText
  | .repeated p least _ _ => 0 < least && p.endsText
  | .group _ p => p.endsText
  | _ => false

/-- The size of the states that skip what comes before a match. -/
def skipSize (anchored : Bool) : Nat :=
  if anchored then stateSize else forkSize + 2 * stateSize + rangeSize

/-- The size of the automaton that reads forward. It keeps where a match starts and ends. -/
def forwardSize (p : Pattern) : Nat :=
  skipSize p.startsText + p.innerSize false false + 3 * stateSize

/-- The size of the automaton that reads backward. -/
def backwardSize (p : Pattern) : Nat :=
  skipSize p.endsText + p.innerSize true false + stateSize

end Pattern

end Metronome
