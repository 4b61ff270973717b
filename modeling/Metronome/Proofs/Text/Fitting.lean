import Metronome.Text.Fitting

/-!
# The longest beginning that fits

Of the beginnings of a text that take at most some number of bytes, there is a longest one, in which
all others begin (`LongestFit`). It is what `fitting` keeps (`longestFit_iff`). A text that is put
together from parts is cut in the first part that does not fit, and what follows that part does not
count (`fitting_append_of_lt`).
-/

namespace Metronome

/-- Of the beginnings of a text that take at most `room` bytes, `kept` is the longest. -/
structure LongestFit (room : Nat) (text kept : String) : Prop where
  isPrefix : kept.toList <+: text.toList
  bytes_le : kept.utf8ByteSize ≤ room
  longest : ∀ other : String, other.toList <+: text.toList → other.utf8ByteSize ≤ room →
    other.toList <+: kept.toList

/-! ## Characters -/

theorem byteCount_toList (text : String) : byteCount text.toList = text.utf8ByteSize := by
  rw [← utf8ByteSize_ofList, String.ofList_toList]

theorem fitting_prefix (room : Nat) (cs : List Char) : fitting room cs <+: cs := by
  induction cs generalizing room with
  | nil => exact List.nil_prefix
  | cons c cs ih =>
    rw [fitting]
    split
    · exact (List.prefix_cons_inj c).mpr (ih _)
    · exact List.nil_prefix

/-- A part that fits leaves the rest of the room to what follows it. -/
theorem fitting_append_of_le {room : Nat} {cs : List Char} (h : byteCount cs ≤ room)
    (ds : List Char) : fitting room (cs ++ ds) = cs ++ fitting (room - byteCount cs) ds := by
  induction cs generalizing room with
  | nil => rfl
  | cons c cs ih =>
    rw [byteCount_cons] at h
    have hc : c.utf8Size ≤ room := by omega
    have hroom : room - c.utf8Size - byteCount cs = room - byteCount (c :: cs) := by
      rw [byteCount_cons]
      omega
    rw [List.cons_append, fitting, if_pos hc, ih (by omega), hroom, List.cons_append]

/-- Behind a part that does not fit nothing is kept. -/
theorem fitting_append_of_lt {room : Nat} {cs : List Char} (h : room < byteCount cs)
    (ds : List Char) : fitting room (cs ++ ds) = fitting room cs := by
  induction cs generalizing room with
  | nil =>
    rw [byteCount_nil] at h
    omega
  | cons c cs ih =>
    rw [byteCount_cons] at h
    rw [List.cons_append, fitting, fitting]
    by_cases hc : c.utf8Size ≤ room
    · rw [if_pos hc, if_pos hc, ih (by omega)]
    · rw [if_neg hc, if_neg hc]

/-- The whole text fits exactly when it takes no more bytes than there is room. -/
theorem fitting_eq_self_iff {room : Nat} {cs : List Char} :
    fitting room cs = cs ↔ byteCount cs ≤ room := by
  refine ⟨fun h => ?_, fitting_of_byteCount_le⟩
  rw [← h]
  exact byteCount_fitting_le room cs

/-- Every beginning that fits is a beginning of what is kept. -/
theorem prefix_fitting {room : Nat} {part cs : List Char} (hpart : part <+: cs)
    (hbytes : byteCount part ≤ room) : part <+: fitting room cs := by
  obtain ⟨rest, rfl⟩ := hpart
  rw [fitting_append_of_le hbytes]
  exact List.prefix_append part _

/-- A character that ends past the room is dropped, and so is all that follows it. -/
theorem fitting_prefix_of_lt {room : Nat} {before after : List Char} {c : Char}
    (h : room < byteCount before + c.utf8Size) :
    fitting room (before ++ c :: after) <+: before := by
  have hend : room < byteCount (before ++ [c]) := by
    simpa using h
  have hsplit : before ++ c :: after = (before ++ [c]) ++ after := by simp
  rw [hsplit, fitting_append_of_lt hend]
  rcases Nat.lt_or_ge room (byteCount before) with hlt | hle
  · rw [fitting_append_of_lt hlt]
    exact fitting_prefix room before
  · have hc : ¬ c.utf8Size ≤ room - byteCount before := by omega
    have hkept : fitting room (before ++ [c]) = before := by
      rw [fitting_append_of_le hle, fitting, if_neg hc, List.append_nil]
    exact ⟨[], (List.append_nil _).trans hkept⟩

/-- When not all is kept, the next character would not have fitted. -/
theorem exists_next_of_lt {room : Nat} {cs : List Char} (h : room < byteCount cs) :
    ∃ next rest, cs = fitting room cs ++ next :: rest ∧
      room < byteCount (fitting room cs) + next.utf8Size := by
  induction cs generalizing room with
  | nil =>
    rw [byteCount_nil] at h
    omega
  | cons c cs ih =>
    rw [byteCount_cons] at h
    rw [fitting]
    by_cases hc : c.utf8Size ≤ room
    · have hrest : room - c.utf8Size < byteCount cs := by omega
      obtain ⟨next, rest, hcs, hnext⟩ := ih hrest
      refine ⟨next, rest, ?_, ?_⟩
      · rw [if_pos hc, List.cons_append, ← hcs]
      · rw [if_pos hc, byteCount_cons]
        omega
    · refine ⟨c, cs, ?_, ?_⟩
      · rw [if_neg hc, List.nil_append]
      · rw [if_neg hc, byteCount_nil]
        omega

/-! ## Texts -/

theorem longestFit_fitting (room : Nat) (text : String) :
    LongestFit room text (String.ofList (fitting room text.toList)) where
  isPrefix := by
    rw [String.toList_ofList]
    exact fitting_prefix room text.toList
  bytes_le := by
    rw [utf8ByteSize_ofList]
    exact byteCount_fitting_le room text.toList
  longest other hother hbytes := by
    rw [String.toList_ofList]
    rw [← byteCount_toList] at hbytes
    exact prefix_fitting hother hbytes

theorem LongestFit.unique {room : Nat} {text kept kept' : String} (h : LongestFit room text kept)
    (h' : LongestFit room text kept') : kept = kept' := by
  have hle := h'.longest kept h.isPrefix h.bytes_le
  have hge := h.longest kept' h'.isPrefix h'.bytes_le
  exact String.toList_inj.mp (hle.eq_of_length_le hge.length_le)

/-- What is kept is the longest beginning that fits, and nothing else is. -/
theorem longestFit_iff {room : Nat} {text kept : String} :
    LongestFit room text kept ↔ kept = String.ofList (fitting room text.toList) := by
  constructor
  · intro h
    exact h.unique (longestFit_fitting room text)
  · rintro rfl
    exact longestFit_fitting room text

end Metronome
