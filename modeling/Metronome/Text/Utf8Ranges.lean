import Metronome.Text.CharSet

/-!
# Sets of characters as bytes

The UTF-8 encodings of the characters of a set, as sequences of byte ranges in increasing order.
Each sequence stands for all encodings with one byte of each range; no encoding is in two of them.
-/

namespace Metronome

/-- A range of bytes. -/
structure ByteRange where
  first : Nat
  last : Nat
deriving DecidableEq

/-- Any byte that continues an encoding. -/
def ByteRange.continuation : ByteRange := ⟨0x80, 0xBF⟩

/-- Characters whose encodings are equally long. -/
structure Utf8Length where
  /-- The number of bytes behind the first one. -/
  continuations : Nat
  /-- What is added to the highest bits in the first byte. -/
  lead : Nat
  range : CodeRange

/-- The lengths of encodings in increasing order. -/
def Utf8Length.all : List Utf8Length :=
  [⟨0, 0, ⟨0, 0x7F⟩⟩, ⟨1, 0xC0, ⟨0x80, 0x7FF⟩⟩, ⟨2, 0xE0, ⟨0x800, 0xD7FF⟩⟩,
    ⟨2, 0xE0, ⟨0xE000, 0xFFFF⟩⟩, ⟨3, 0xF0, ⟨0x10000, maxCodePoint⟩⟩]

/-- The encodings of the numbers from `first` to `last` with a fixed count of bytes behind the first
one: those that share the first byte with `first` only, those that fill all bytes behind the first
one, and those that share it with `last` only. -/
def byteSequences (lead : Nat) : (count first last : Nat) → List (List ByteRange)
  | 0, first, last => [[⟨lead + first, lead + last⟩]]
  | count + 1, first, last =>
    let size := 64 ^ (count + 1)
    let low := first / size
    let high := last / size
    let behind (n start stop : Nat) : List (List ByteRange) :=
      (byteSequences 0x80 count start stop).map (⟨lead + n, lead + n⟩ :: ·)
    if low = high then behind low (first % size) (last % size)
    else
      let startsFull := first % size = 0
      let endsFull := last % size = size - 1
      let fullLow := if startsFull then low else low + 1
      let fullHigh := if endsFull then high else high - 1
      let full : List (List ByteRange) :=
        if fullLow ≤ fullHigh then
          [⟨lead + fullLow, lead + fullHigh⟩ :: List.replicate (count + 1) .continuation]
        else []
      (if startsFull then [] else behind low (first % size) (size - 1)) ++ full ++
        (if endsFull then [] else behind high 0 (last % size))

/-- The encodings of the characters of a range. -/
def CodeRange.utf8 (r : CodeRange) : List (List ByteRange) :=
  Utf8Length.all.flatMap fun l =>
    match r.inter l.range with
    | some s => byteSequences l.lead l.continuations s.first s.last
    | none => []

/-- The encodings of the characters of a set. -/
def CharSet.utf8 (s : CharSet) : List (List ByteRange) := s.ranges.flatMap CodeRange.utf8

/-- The bytes of a text. -/
def utf8Bytes (text : List Char) : List Nat :=
  text.flatMap fun c => (String.utf8EncodeChar c).map UInt8.toNat

end Metronome
