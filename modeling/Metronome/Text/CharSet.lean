/-!
# Sets of characters

A set is kept as the ranges of its code points, in increasing order and with a gap between one and
the next, so that equal sets have equal ranges. Surrogates stand for no character; a range may pass
over them.
-/

namespace Metronome

/-- A range of code points. -/
structure CodeRange where
  first : Nat
  last : Nat
deriving DecidableEq, Hashable

/-- A set of characters. -/
structure CharSet where
  ranges : List CodeRange
deriving DecidableEq, Hashable

/-- The highest code point. -/
def maxCodePoint : Nat := 0x10FFFF

/-- The highest code point of an ASCII character. -/
def maxAscii : Nat := 0x7F

/-- The character number behind another one. -/
def nextCode (n : Nat) : Nat := if n = 0xD7FF then 0xE000 else n + 1

/-- The character number before another one. -/
def previousCode (n : Nat) : Nat := if n = 0xE000 then 0xD7FF else n - 1

namespace CodeRange

/-- The range of one character. -/
def single (c : Char) : CodeRange := ⟨c.toNat, c.toNat⟩

/-- Whether a code point is in a range. -/
def holds (n : Nat) (r : CodeRange) : Bool := r.first ≤ n && n ≤ r.last

/-- The code points that are in both ranges, if there are any. -/
def inter (r s : CodeRange) : Option CodeRange :=
  let first := max r.first s.first
  let last := min r.last s.last
  if first ≤ last then some ⟨first, last⟩ else none

/-- Adds a range to ranges in order; those that it meets are joined with it. -/
def insert (r : CodeRange) : List CodeRange → List CodeRange
  | [] => [r]
  | s :: ss =>
    if r.last + 1 < s.first then r :: s :: ss
    else if s.last + 1 < r.first then s :: insert r ss
    else insert ⟨min r.first s.first, max r.last s.last⟩ ss

theorem any_holds_insert (n : Nat) {r : CodeRange} {rs : List CodeRange}
    (hr : r.first ≤ r.last) (hrs : ∀ s ∈ rs, s.first ≤ s.last) :
    (insert r rs).any (holds n) = (r.holds n || rs.any (holds n)) := by
  fun_induction insert r rs with
  | case1 => simp
  | case2 => simp
  | case3 r s ss h₁ h₂ ih =>
    simp only [List.any_cons, ih hr fun t ht => hrs t (by simp [ht])]
    cases s.holds n <;> simp
  | case4 r s ss h₁ h₂ ih =>
    have hs := hrs s (by simp)
    rw [ih (by simp; omega) fun t ht => hrs t (by simp [ht])]
    have joined : holds n ⟨min r.first s.first, max r.last s.last⟩ = (r.holds n || s.holds n) := by
      simp only [holds]
      grind
    simp [joined, Bool.or_assoc]

/-- The ranges between the given ones from `low` up to `top`. -/
def gaps (top low : Nat) : List CodeRange → List CodeRange
  | [] => if low ≤ top then [⟨low, top⟩] else []
  | r :: rs =>
    let others := gaps top (nextCode r.last) rs
    if low < r.first then ⟨low, previousCode r.first⟩ :: others else others

/-- The ASCII letters of a range in the other case. -/
def otherCase (r : CodeRange) : List CodeRange :=
  let upper := (r.inter ⟨97, 122⟩).map fun s => ⟨s.first - 32, s.last - 32⟩
  let lower := (r.inter ⟨65, 90⟩).map fun s => ⟨s.first + 32, s.last + 32⟩
  upper.toList ++ lower.toList

end CodeRange

namespace CharSet

/-- No character. -/
def none : CharSet := ⟨[]⟩

/-- The code points of some ranges. -/
def ofRanges (ranges : List CodeRange) : CharSet := ⟨ranges.foldr CodeRange.insert []⟩

/-- The set of some characters. -/
def ofChars (chars : List Char) : CharSet := ofRanges (chars.map .single)

/-- All characters. -/
def all : CharSet := ⟨[⟨0, maxCodePoint⟩]⟩

/-- Whether a character is in a set. -/
def contains (s : CharSet) (c : Char) : Bool := s.ranges.any (CodeRange.holds c.toNat)

/-- The only character of a set. -/
def only? (s : CharSet) : Option Char :=
  match s.ranges with
  | [r] => if r.first = r.last then some (Char.ofNat r.first) else Option.none
  | _ => Option.none

/-- Whether all characters of a set are ASCII characters. -/
def isAscii (s : CharSet) : Bool := s.ranges.all (·.last ≤ maxAscii)

/-- The characters of both sets. -/
def union (s t : CharSet) : CharSet := ⟨t.ranges.foldr CodeRange.insert s.ranges⟩

/-- The characters that both sets share. -/
def inter (s t : CharSet) : CharSet := ⟨s.ranges.flatMap fun r => t.ranges.filterMap r.inter⟩

/-- The code points up to `top` that are not in a set. -/
def compl (top : Nat) (s : CharSet) : CharSet := ⟨CodeRange.gaps top 0 s.ranges⟩

/-- The characters of a set that are not in another one. -/
def diff (s t : CharSet) : CharSet := s.inter (t.compl maxCodePoint)

/-- The characters that are in one of two sets only. -/
def symmDiff (s t : CharSet) : CharSet := (s.union t).diff (s.inter t)

/-- A set with its ASCII letters in both cases. -/
def caseless (s : CharSet) : CharSet := s.union (ofRanges (s.ranges.flatMap CodeRange.otherCase))

/-- The ASCII digits. -/
def digits : CharSet := ⟨[⟨48, 57⟩]⟩

/-- The characters of ASCII words. -/
def words : CharSet := ⟨[⟨48, 57⟩, ⟨65, 90⟩, ⟨95, 95⟩, ⟨97, 122⟩]⟩

/-- The ASCII blanks. -/
def spaces : CharSet := ⟨[⟨9, 13⟩, ⟨32, 32⟩]⟩

/-- The set of ASCII characters of a name. -/
def named? (name : String) : Option CharSet :=
  match name with
  | "alnum" => some ⟨[⟨48, 57⟩, ⟨65, 90⟩, ⟨97, 122⟩]⟩
  | "alpha" => some ⟨[⟨65, 90⟩, ⟨97, 122⟩]⟩
  | "ascii" => some ⟨[⟨0, maxAscii⟩]⟩
  | "blank" => some ⟨[⟨9, 9⟩, ⟨32, 32⟩]⟩
  | "cntrl" => some ⟨[⟨0, 31⟩, ⟨127, 127⟩]⟩
  | "digit" => some digits
  | "graph" => some ⟨[⟨33, 126⟩]⟩
  | "lower" => some ⟨[⟨97, 122⟩]⟩
  | "print" => some ⟨[⟨32, 126⟩]⟩
  | "punct" => some ⟨[⟨33, 47⟩, ⟨58, 64⟩, ⟨91, 96⟩, ⟨123, 126⟩]⟩
  | "space" => some spaces
  | "upper" => some ⟨[⟨65, 90⟩]⟩
  | "word" => some words
  | "xdigit" => some ⟨[⟨48, 57⟩, ⟨65, 70⟩, ⟨97, 102⟩]⟩
  | _ => Option.none

end CharSet

end Metronome
