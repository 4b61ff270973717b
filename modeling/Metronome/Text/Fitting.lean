/-!
# Text cut to a number of bytes

`fitting room cs` is the longest beginning of `cs` that takes at most `room` UTF-8 bytes and ends
between two characters. It stops at the first character that does not fit, also when a later and
shorter one would.
-/

namespace Metronome

/-- The number of UTF-8 bytes of a list of characters. -/
def byteCount : List Char → Nat
  | [] => 0
  | c :: cs => c.utf8Size + byteCount cs

/-- The longest beginning of a text that takes at most `room` bytes. -/
def fitting : Nat → List Char → List Char
  | _, [] => []
  | room, c :: cs => if c.utf8Size ≤ room then c :: fitting (room - c.utf8Size) cs else []

@[simp]
theorem byteCount_nil : byteCount [] = 0 := rfl

@[simp]
theorem byteCount_cons (c : Char) (cs : List Char) :
    byteCount (c :: cs) = c.utf8Size + byteCount cs := rfl

@[simp]
theorem byteCount_append (cs ds : List Char) :
    byteCount (cs ++ ds) = byteCount cs + byteCount ds := by
  induction cs with
  | nil => simp
  | cons c cs ih => simp [ih, Nat.add_assoc]

/-- The bytes of a text are those of its characters. -/
theorem utf8ByteSize_ofList (cs : List Char) : (String.ofList cs).utf8ByteSize = byteCount cs := by
  induction cs with
  | nil => rfl
  | cons c cs ih =>
    have hs : String.ofList (c :: cs) = String.ofList [c] ++ String.ofList cs := by
      rw [← String.ofList_append]
      rfl
    have hc : (String.ofList [c]).utf8ByteSize = c.utf8Size := by
      rw [← String.singleton_eq_ofList]
      simp only [String.utf8ByteSize_singleton]
    rw [hs, String.utf8ByteSize_append, hc, ih, byteCount_cons]

/-- What fits takes no more than the room. -/
theorem byteCount_fitting_le (room : Nat) (cs : List Char) :
    byteCount (fitting room cs) ≤ room := by
  induction cs generalizing room with
  | nil => simp [fitting]
  | cons c cs ih =>
    unfold fitting
    split
    · have := ih (room - c.utf8Size)
      simp only [byteCount_cons]
      omega
    · simp

/-- A text that takes no more than the room is kept whole. -/
theorem fitting_of_byteCount_le {room : Nat} {cs : List Char} (h : byteCount cs ≤ room) :
    fitting room cs = cs := by
  induction cs generalizing room with
  | nil => rfl
  | cons c cs ih =>
    simp only [byteCount_cons] at h
    have hc : c.utf8Size ≤ room := by omega
    rw [fitting, if_pos hc, ih (by omega)]

end Metronome
