import Metronome.Text.Pattern.Basic
import Metronome.Text.Pattern.Error

/-!
# What patterns mean

The flags that hold at a part of a pattern say what it matches. A flag holds from where it is set
up to the end of the group around it. Where characters are taken as such, no class, property or
other case of a character is known; where they are taken as bytes, nothing may match a part of a
character.
-/

namespace Metronome

/-- How the characters of a pattern are taken. -/
structure PatternFlags where
  caseless : Bool := false
  lines : Bool := false
  dotAll : Bool := false
  characters : Bool := true
  returns : Bool := false
  lazy : Bool := false
deriving DecidableEq

namespace PatternFlags

/-- The flags behind a change. Blanks and comments are gone already. -/
def change (f : PatternFlags) (change : FlagChange) : PatternFlags :=
  match change.flag with
  | .caseless => { f with caseless := change.on }
  | .lines => { f with lines := change.on }
  | .dotAll => { f with dotAll := change.on }
  | .characters => { f with characters := change.on }
  | .returns => { f with returns := change.on }
  | .lazy => { f with lazy := change.on }
  | .spaced => f

/-- The highest number of what a set is made of. -/
def top (f : PatternFlags) : Nat := if f.characters then maxCodePoint else 0xFF

end PatternFlags

/-! ## Sets -/

/-- A set that is being put together. -/
structure SetDraft where
  set : CharSet := .none
  /-- Whether it is known to have its letters in both cases. -/
  caseClosed : Bool := true
deriving DecidableEq

namespace SetDraft

/-- Some characters whose case has not been looked at. -/
def ofSet (set : CharSet) : SetDraft := { set, caseClosed := set.ranges = [] }

/-- Adds characters whose case has not been looked at. -/
def add (s : SetDraft) (set : CharSet) : SetDraft :=
  { set := s.set.union set, caseClosed := false }

/-- The characters of both sets. -/
def union (s t : SetDraft) : SetDraft :=
  if t.set.ranges = [] ∨ s.set = t.set then s
  else { set := s.set.union t.set, caseClosed := s.caseClosed && t.caseClosed }

/-- The characters that both sets share. -/
def inter (s t : SetDraft) : SetDraft :=
  if s.set.ranges = [] then s
  else if t.set.ranges = [] then {}
  else { set := s.set.inter t.set, caseClosed := s.caseClosed && t.caseClosed }

/-- The characters of a set that are not in another one. -/
def diff (s t : SetDraft) : SetDraft :=
  if s.set.ranges = [] ∨ t.set.ranges = [] then s
  else { set := s.set.diff t.set, caseClosed := s.caseClosed && t.caseClosed }

/-- Two sets joined into one. -/
def join (j : SetJoin) (s t : SetDraft) : SetDraft :=
  match j with
  | .inter => s.inter t
  | .diff => s.diff t
  | .symmDiff => (s.union t).diff (s.inter t)

/-- What is not in a set, up to `top`. -/
def compl (top : Nat) (s : SetDraft) : SetDraft :=
  { set := s.set.compl top, caseClosed := s.caseClosed || s.set.ranges = [] }

/-- A set with its letters in both cases, where the flags ask for it. -/
def fold (f : PatternFlags) (span : TextSpan) (s : SetDraft) : Except PatternError SetDraft :=
  if !f.caseless || s.caseClosed then .ok s
  else if f.characters then .error (PatternFault.caseUnavailable.error span)
  else .ok { set := s.set.caseless, caseClosed := true }

/-- A set with its letters in both cases where the flags ask for it, and then negated if asked for.
Bytes have to be ASCII characters in the end. -/
def finish (f : PatternFlags) (negated : Bool) (span : TextSpan) (s : SetDraft) :
    Except PatternError SetDraft := do
  let s ← s.fold f span
  let s := if negated then s.compl f.top else s
  if !f.characters && !s.set.isAscii then throw (PatternFault.cutsCharacters.error span)
  return s

end SetDraft

/-- The characters of a class. -/
def CharClass.meaning (f : PatternFlags) (c : CharClass) (negated : Bool) (span : TextSpan) :
    Except PatternError CharSet :=
  if f.characters then .error (PatternFault.classUnavailable.error span)
  else if negated then .error (PatternFault.cutsCharacters.error span)
  else .ok c.ascii

/-- The letters of a property's name, without a beginning that says nothing. -/
def propertyName (name : List Char) : List Char :=
  let lower := name.map Char.toLower
  let isMarked := ['i', 's'].isPrefixOf lower
  let letters := (if isMarked then lower.drop 2 else lower).filter fun c =>
    c.toNat ≤ maxAscii && c ∉ [' ', '_', '-']
  if isMarked && letters = ['c'] then ['i', 's', 'c'] else letters

/-- Why the characters with a property are not known. A few short names are those of categories and
of properties alike, and are taken as the former. -/
def propertyFault (f : PatternFlags) (name : List Char) : PatternFault :=
  let isCategory := propertyName name ∈ [['c', 'f'], ['s', 'c'], ['l', 'c']]
  if !f.characters then .characterInBytes
  else if isCategory then .propertyValueUnknown
  else .propertyUnknown

/-- The character of a sign in a set; a byte has to be an ASCII character. -/
def PatternSign.setChar (f : PatternFlags) (s : PatternSign) (span : TextSpan) :
    Except PatternError Nat :=
  let check (fault : PatternFault) (c : Char) : Except PatternError Nat :=
    if f.characters || c.toNat ≤ maxAscii then .ok c.toNat else .error (fault.error span)
  match s with
  | .byte c => check .cutsCharacters c
  | .char c => check .characterInBytes c
  | _ => .error (PatternFault.rangeBoundary.error span)

mutual

/-- Adds the characters of a set to a draft. -/
def SetSyntax.addTo (f : PatternFlags) (draft : SetDraft) :
    SetSyntax → Except PatternError SetDraft
  | .empty _ => .ok draft
  | .sign (.charClass c negated) span =>
    return draft.union (.ofSet (← c.meaning f negated span))
  | .sign (.property name) span => .error ((propertyFault f name).error span)
  | .sign s span => do
    let n ← s.setChar f span
    return draft.add ⟨[⟨n, n⟩]⟩
  | .range first firstSpan last lastSpan => do
    let low ← first.setChar f firstSpan
    let high ← last.setChar f lastSpan
    return draft.add ⟨[⟨low, high⟩]⟩
  | .named set negated span => return draft.union (← (SetDraft.ofSet set).finish f negated span)
  | .bracketed negated inner span => do
    return draft.union (← (← inner.addTo f {}).finish f negated span)
  | .union items _ => addAllTo f draft items
  | .joined join left right _ => do
    let s ← left.addTo f {}
    let t ← right.addTo f {}
    let t ← t.fold f right.span
    let s ← s.fold f left.span
    return draft.union (s.join join t)

/-- Adds the characters of some sets to a draft. -/
def addAllTo (f : PatternFlags) (draft : SetDraft) :
    List SetSyntax → Except PatternError SetDraft
  | [] => .ok draft
  | item :: items => do addAllTo f (← item.addTo f draft) items

end

/-! ## Patterns -/

/-- The condition of a sign. -/
def AnchorSign.meaning (f : PatternFlags) : AnchorSign → Anchor
  | .caret => if f.lines then .lineStart f.returns else .textStart
  | .dollar => if f.lines then .lineEnd f.returns else .textEnd
  | .textStart => .textStart
  | .textEnd => .textEnd
  | .word e => .word e (!f.characters)

/-- The characters that a dot stands for. -/
def dotSet (f : PatternFlags) : CharSet :=
  if f.dotAll then .all
  else (if f.returns then CharSet.ofChars ['\n', '\r'] else .ofChars ['\n']).compl maxCodePoint

/-- The pattern of a character; ASCII letters stand for both cases where the flags say so. -/
def charMeaning (f : PatternFlags) (c : Char) (span : TextSpan) : Except PatternError Pattern :=
  if !f.caseless then .ok (.literal [c])
  else if f.characters then .error (PatternFault.caseUnavailable.error span)
  else .ok (.ofSet (CharSet.caseless (.ofChars [c])))

/-- The pattern of a sign. -/
def PatternSign.meaning (f : PatternFlags) (span : TextSpan) :
    PatternSign → Except PatternError Pattern
  | .char c => charMeaning f c span
  | .byte c =>
    if !f.characters && maxAscii < c.toNat then .error (PatternFault.cutsCharacters.error span)
    else charMeaning f c span
  | .dot =>
    if f.characters then .ok (.ofSet (dotSet f))
    else .error (PatternFault.cutsCharacters.error span)
  | .anchor a => .ok (.anchor (a.meaning f))
  | .charClass c negated => return .ofSet (← c.meaning f negated span)
  | .property name => .error ((propertyFault f name).error span)

/-- A reader of what is written: it keeps the flags that hold and stops at the first fault. -/
abbrev Meaning := StateT PatternFlags (Except PatternError)

/-- Changes the flags. -/
def changeFlags (changes : List FlagChange) : Meaning Unit :=
  modify fun f => changes.foldl PatternFlags.change f

mutual

/-- The pattern that is written. -/
def PatternSyntax.meaning : PatternSyntax → Meaning Pattern
  | .empty _ => return .empty
  | .flags changes _ => do
    changeFlags changes
    return .empty
  | .sign s span => do s.meaning (← get) span
  | .set s => do
    let draft ← s.addTo (← get) {}
    return .ofSet draft.set
  | .repeated p least most lazy _ => do
    let inner ← p.meaning
    return inner.times least most (lazy != (← get).lazy)
  | .group index changes p _ => do
    let around ← get
    changeFlags changes
    let inner ← p.meaning
    set around
    return match index with
      | some n => .group n inner
      | none => inner
  | .sequence ps _ => return .sequence (← meanings ps)
  | .choice ps _ => return .alternatives (← meanings ps)

/-- The patterns that are written. -/
def meanings : List PatternSyntax → Meaning (List Pattern)
  | [] => return []
  | p :: ps => do
    let first ← p.meaning
    return first :: (← meanings ps)

end

end Metronome
