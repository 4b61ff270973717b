import Metronome.Text.CharSet
import Metronome.Text.Span

/-!
# The notation of search patterns

A pattern as it is written: its parts with the places where they stand, before the flags are taken
into account that say what they mean.
-/

namespace Metronome

/-- A flag of a pattern. -/
inductive PatternFlag where
  /-- Letters stand for both cases. -/
  | caseless
  /-- `^` and `$` also hold at the ends of lines. -/
  | lines
  /-- A dot stands for a line break, too. -/
  | dotAll
  /-- Repetitions prefer few rounds, and those with `?` behind them many. -/
  | lazy
  /-- Characters are taken as such, and not as bytes. -/
  | characters
  /-- A carriage return ends a line, too. -/
  | returns
  /-- Blanks and comments are skipped. -/
  | spaced
deriving DecidableEq

/-- A flag that is set or taken back. -/
structure FlagChange where
  flag : PatternFlag
  on : Bool
deriving DecidableEq

/-- A place at a word. -/
inductive WordEdge where
  /-- Where a word starts or ends. -/
  | edge
  /-- Any place but those. -/
  | noEdge
  | start
  | stop
  /-- Where no word character is before. -/
  | startHalf
  /-- Where no word character is behind. -/
  | stopHalf
deriving DecidableEq, Hashable

/-- A condition on a place, as it is written. -/
inductive AnchorSign where
  /-- `^` -/
  | caret
  /-- `$` -/
  | dollar
  | textStart
  | textEnd
  | word (e : WordEdge)
deriving DecidableEq

/-- The classes of characters that have a letter of their own. -/
inductive CharClass where
  | digits
  | spaces
  | words
deriving DecidableEq

/-- The ASCII characters of a class. -/
def CharClass.ascii : CharClass → CharSet
  | .digits => .digits
  | .spaces => .spaces
  | .words => .words

/-- A single sign of a pattern. -/
inductive PatternSign where
  | char (c : Char)
  /-- A character that is given by a byte. -/
  | byte (c : Char)
  | dot
  | anchor (a : AnchorSign)
  | charClass (c : CharClass) (negated : Bool)
  /-- The characters with a property. -/
  | property (name : List Char)
deriving DecidableEq

/-- What joins two sets. -/
inductive SetJoin where
  | inter
  | diff
  | symmDiff
deriving DecidableEq

/-- A set of characters, as it is written. -/
inductive SetSyntax where
  | empty (span : TextSpan)
  | sign (s : PatternSign) (span : TextSpan)
  | range (first : PatternSign) (firstSpan : TextSpan) (last : PatternSign) (lastSpan : TextSpan)
  | named (chars : CharSet) (negated : Bool) (span : TextSpan)
  | bracketed (negated : Bool) (inner : SetSyntax) (span : TextSpan)
  | union (items : List SetSyntax) (span : TextSpan)
  | joined (join : SetJoin) (left right : SetSyntax) (span : TextSpan)

/-- Where a set is written. -/
def SetSyntax.span : SetSyntax → TextSpan
  | .empty span | .sign _ span | .named _ _ span | .bracketed _ _ span | .union _ span
  | .joined _ _ _ span => span
  | .range _ first _ last => ⟨first.start, last.stop⟩

/-- A pattern, as it is written. -/
inductive PatternSyntax where
  | empty (span : TextSpan)
  /-- A place where flags change. -/
  | flags (changes : List FlagChange) (span : TextSpan)
  | sign (s : PatternSign) (span : TextSpan)
  | set (s : SetSyntax)
  | repeated (p : PatternSyntax) (least : Nat) (most : Option Nat) (lazy : Bool)
    (span : TextSpan)
  /-- A group; `index` counts those whose text is kept, and flags change within it. -/
  | group (index : Option Nat) (changes : List FlagChange) (p : PatternSyntax) (span : TextSpan)
  | sequence (parts : List PatternSyntax) (span : TextSpan)
  | choice (branches : List PatternSyntax) (span : TextSpan)

namespace PatternSyntax

/-- Where a pattern is written. -/
def span : PatternSyntax → TextSpan
  | .empty span | .flags _ span | .sign _ span | .repeated _ _ _ _ span
  | .group _ _ _ span | .sequence _ span | .choice _ span => span
  | .set s => s.span

/-- Whether it can be repeated. -/
def isRepeatable : PatternSyntax → Bool
  | .empty _ | .flags _ _ => false
  | _ => true

end PatternSyntax

end Metronome
