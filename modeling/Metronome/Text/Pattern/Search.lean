import Std.Data.HashSet
import Metronome.Text.Pattern.Basic

/-!
# Searching for patterns

A search keeps the patterns that are left to match behind what has been read: a pattern is found
once one of them accepts the empty text.
-/

namespace Metronome

namespace Pattern

/-- One pattern after another. -/
def andThen (p q : Pattern) : Pattern := if p = .empty then q else .seq p q

/-- Whether a pattern matches the empty text at a place. -/
def acceptsEmpty (spot : Spot) : Pattern → Bool
  | .empty => true
  | .anchor a => a.holds spot
  | .literal text => text.isEmpty
  | .one _ => false
  | .seq p q => p.acceptsEmpty spot && q.acceptsEmpty spot
  | .alt p q => p.acceptsEmpty spot || q.acceptsEmpty spot
  | .repeated p least _ _ => least = 0 || p.acceptsEmpty spot
  | .group _ p => p.acceptsEmpty spot

/-- The patterns that are left to match behind a character, which is read at a place. A repeated
pattern that matches the empty text at the place makes up for all rounds that are still missing. -/
def after (spot : Spot) (c : Char) : Pattern → List Pattern
  | .empty => []
  | .anchor _ => []
  | .literal [] => []
  | .literal [d] => if c = d then [.empty] else []
  | .literal (d :: text) => if c = d then [.literal text] else []
  | .one set => if set.contains c then [.empty] else []
  | .seq p q =>
    (p.after spot c).map (·.andThen q) ++ if p.acceptsEmpty spot then q.after spot c else []
  | .alt p q => p.after spot c ++ q.after spot c
  | .repeated p least most lazy =>
    if most = some 0 then []
    else
      let least := if p.acceptsEmpty spot then 0 else least - 1
      (p.after spot c).map (·.andThen (.repeated p least (most.map (· - 1)) lazy))
  | .group _ p => p.after spot c

/-- Some patterns without repetitions. -/
def distinct (ps : List Pattern) : List Pattern := (Std.HashSet.ofList ps).toList

theorem mem_distinct {p : Pattern} {ps : List Pattern} : p ∈ distinct ps ↔ p ∈ ps := by
  simp [distinct]

/-- Whether a pattern is found in what is left of a text, or one of those that are left to match. -/
def foundFrom (pattern : Pattern) (left : List Pattern) (before : Option Char) :
    List Char → Bool
  | [] => (pattern :: left).any (·.acceptsEmpty ⟨before, none⟩)
  | c :: cs =>
    let spot : Spot := ⟨before, some c⟩
    (pattern :: left).any (·.acceptsEmpty spot) ||
      pattern.foundFrom (distinct ((pattern :: left).flatMap (·.after spot c))) (some c) cs

/-- Whether a pattern is found anywhere in a text. -/
def isFoundIn (pattern : Pattern) (text : String) : Bool :=
  pattern.foundFrom [] none text.toList

/-! ## Merged repetitions -/

/-- The product of two numbers without which there is no bound. -/
def productBound (a b : Option Nat) : Option Nat :=
  if a = some 0 ∨ b = some 0 then some 0 else do return (← a) * (← b)

/-- Whether rounds of `least` to `most` times the same add up to all numbers between the least and
the greatest one, where there are at least `rounds` and at most `maxRounds` of them. -/
def isGapless (least : Nat) (most : Option Nat) (rounds : Nat) (maxRounds : Option Nat) : Bool :=
  maxRounds = some rounds ||
    match most with
    | some most => least ≤ rounds * (most - least) + 1
    | none => least ≤ 1 || 1 ≤ rounds

/-- A pattern a number of times, where repetitions of repetitions are counted together. -/
def mergedTimes (p : Pattern) (least : Nat) (most : Option Nat) : Pattern :=
  match p with
  | .repeated q inner maxInner _ =>
    if isGapless inner maxInner least most then
      .repeated q (inner * least) (productBound maxInner most) false
    else .repeated p least most false
  | _ => .repeated p least most false

/-- A pattern that matches the same, where no text is kept, no repetition is lazy and fewer of them
are within one another. -/
def merged : Pattern → Pattern
  | .seq p q => .seq p.merged q.merged
  | .alt p q => .alt p.merged q.merged
  | .repeated p least most _ => mergedTimes p.merged least most
  | .group _ p => p.merged
  | p => p

end Pattern

end Metronome
