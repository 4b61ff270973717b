import Metronome.Text.Pattern.Error
import Metronome.Text.Pattern.Syntax

/-!
# How deep patterns are nested

Groups, repetitions, sets, sequences and alternatives may be within one another `maxNesting` deep;
the first part that is deeper is the fault.
-/

namespace Metronome

/-- Refuses a part of the text within too many others. -/
def checkDepth (depth : Nat) (span : TextSpan) : Except PatternError Unit :=
  if depth < maxNesting then .ok () else .error (PatternFault.nestedTooDeep.error span)

mutual

/-- Refuses a set that goes too deep, where it is within `depth` other parts. -/
def SetSyntax.checkNesting (depth : Nat) : SetSyntax → Except PatternError Unit
  | .empty _ | .sign _ _ | .range _ _ _ _ | .named _ _ _ => .ok ()
  | .bracketed _ inner span => do
    checkDepth depth span
    inner.checkNesting (depth + 1)
  | .union items span => do
    checkDepth depth span
    checkSetNesting (depth + 1) items
  | .joined _ left right span => do
    checkDepth depth span
    left.checkNesting (depth + 1)
    right.checkNesting (depth + 1)

/-- Refuses sets that go too deep. -/
def checkSetNesting (depth : Nat) : List SetSyntax → Except PatternError Unit
  | [] => .ok ()
  | item :: items => do
    item.checkNesting depth
    checkSetNesting depth items

end

mutual

/-- Refuses a pattern that goes too deep, where it is within `depth` other parts. -/
def PatternSyntax.checkNesting (depth : Nat) : PatternSyntax → Except PatternError Unit
  | .empty _ | .flags _ _ | .sign _ _ => .ok ()
  | .set s => s.checkNesting depth
  | .repeated p _ _ _ span => do
    checkDepth depth span
    p.checkNesting (depth + 1)
  | .group _ _ p span => do
    checkDepth depth span
    p.checkNesting (depth + 1)
  | .sequence parts span => do
    checkDepth depth span
    checkNestingAll (depth + 1) parts
  | .choice branches span => do
    checkDepth depth span
    checkNestingAll (depth + 1) branches

/-- Refuses patterns that go too deep. -/
def checkNestingAll (depth : Nat) : List PatternSyntax → Except PatternError Unit
  | [] => .ok ()
  | p :: ps => do
    p.checkNesting depth
    checkNestingAll depth ps

end

end Metronome
