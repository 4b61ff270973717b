import Mathlib.Algebra.BigOperators.Ring.List
import Mathlib.Algebra.Order.Floor.Div
import Metronome.Runner.Clock

/-!
# Sleeping for one cadence

The delay calls of a cadence sleep for exactly that cadence: no count is cut down to 32 bits and no
call is empty.

* `exists_counts_sleepMillis`: the loop over milliseconds makes as few calls as 32 bits allow.
* `Cadence.sum_duration_delays`: the calls of a cadence add up to it.
* `Cadence.delays_sleep_one_cadence`: which calls these are, for every cadence of 64 bits.
-/

namespace Metronome

/-- The count that a call is made with. -/
def DelayCall.count : DelayCall → Nat
  | .nanos count => count.toNat
  | .micros count => count.toNat
  | .millis count => count.toNat

/-- A count is a word of 32 bits. -/
theorem DelayCall.count_le (call : DelayCall) : call.count ≤ maxDelayCount := by
  cases call <;> exact Nat.le_of_lt_succ (UInt32.toNat_lt _)

/-! ## The loop over milliseconds -/

/-- The counts add up to some number, none of them is zero, and there are as few as 32 bits
allow. -/
structure CountsUp (total : Nat) (counts : List UInt32) : Prop where
  sum_eq : (counts.map UInt32.toNat).sum = total
  pos : ∀ count ∈ counts, 0 < count.toNat
  length_eq : counts.length = total ⌈/⌉ maxDelayCount

namespace CountsUp

theorem nil : CountsUp 0 [] := ⟨rfl, nofun, rfl⟩

/-- One call in front of the calls for what it leaves. -/
theorem cons {left : UInt64} {counts : List UInt32} (hleft : left ≠ 0)
    (h : CountsUp (afterMillisChunk left).toNat counts) :
    CountsUp left.toNat (millisChunk left :: counts) := by
  have hpos : 0 < left.toNat := Nat.pos_of_ne_zero fun hzero => hleft (UInt64.toNat_inj.mp hzero)
  have hmax : maxDelayCount = 4294967295 := rfl
  have hchunk := toNat_millisChunk left
  have hafter := toNat_afterMillisChunk left
  refine ⟨?_, ?_, ?_⟩
  · rw [List.map_cons, List.sum_cons, h.sum_eq, hchunk, hafter]
    omega
  · intro count hcount
    rcases List.mem_cons.mp hcount with rfl | hcount
    · omega
    · exact h.pos count hcount
  · rw [List.length_cons, h.length_eq, hafter, Nat.ceilDiv_eq_add_pred_div,
      Nat.ceilDiv_eq_add_pred_div, hmax]
    omega

theorem sum_duration {total : Nat} {counts : List UInt32} (h : CountsUp total counts) :
    ((counts.map DelayCall.millis).map DelayCall.duration).sum = total * 1000 := by
  rw [← h.sum_eq, ← List.sum_map_mul_right, List.map_map]
  rfl

end CountsUp

/-- Behind the calls that were made, the loop makes those that count up to what is left. -/
theorem exists_counts_sleepMillis (made : List DelayCall) (left : UInt64) :
    ∃ counts, sleepMillis made left = made.reverse ++ counts.map .millis ∧
      CountsUp left.toNat counts := by
  fun_induction sleepMillis made left with
  | case1 made => exact ⟨[], (List.append_nil _).symm, .nil⟩
  | case2 made left hleft ih =>
    obtain ⟨counts, hcalls, hcounts⟩ := ih
    refine ⟨millisChunk left :: counts, ?_, hcounts.cons hleft⟩
    rw [hcalls, List.reverse_cons, List.append_assoc, List.map_cons, List.singleton_append]

namespace Cadence

/-! ## The calls of a cadence -/

/-- A cadence that fits one delay call in microseconds takes one. -/
theorem delays_of_le {c : Cadence} (h : c.micros.toNat ≤ maxDelayCount) :
    ∃ count : UInt32, c.delays = [.micros count] ∧ count.toNat = c.micros.toNat := by
  have hword : c.micros.toNat < 2 ^ 32 := Nat.lt_succ_of_le h
  refine ⟨c.micros.toUInt32, by rw [delays, if_pos h], ?_⟩
  rw [UInt64.toNat_toUInt32, Nat.mod_eq_of_lt hword]

/-- A longer cadence takes its full milliseconds first and then what is left of it. -/
theorem delays_of_lt {c : Cadence} (h : maxDelayCount < c.micros.toNat) :
    ∃ (counts : List UInt32) (rest : UInt32), CountsUp (c.micros.toNat / 1000) counts ∧
      rest.toNat = c.micros.toNat % 1000 ∧
      c.delays = counts.map .millis ++ if rest.toNat = 0 then [] else [.micros rest] := by
  obtain ⟨counts, hcalls, hcounts⟩ := exists_counts_sleepMillis [] (c.micros / 1000)
  have hrest : (c.micros % 1000).toUInt32.toNat = c.micros.toNat % 1000 := by
    have hmod : (c.micros % 1000).toNat = c.micros.toNat % 1000 := UInt64.toNat_mod ..
    rw [UInt64.toNat_toUInt32, hmod]
    omega
  refine ⟨counts, (c.micros % 1000).toUInt32, hcounts, hrest, ?_⟩
  rw [delays, if_neg (Nat.not_le_of_lt h), hcalls]
  simp only [List.reverse_nil, List.nil_append, ← UInt32.toNat_inj, UInt32.toNat_zero]

/-- The delay calls of a cadence sleep for exactly that cadence. -/
theorem sum_duration_delays (c : Cadence) :
    (c.delays.map DelayCall.duration).sum = c.micros.toNat := by
  rcases Nat.lt_or_ge maxDelayCount c.micros.toNat with hlong | hfits
  · obtain ⟨counts, rest, hcounts, hrest, hcalls⟩ := delays_of_lt hlong
    rw [hcalls, List.map_append, List.sum_append, hcounts.sum_duration]
    split
    · next hzero =>
      rw [List.map_nil, List.sum_nil]
      omega
    · simp only [List.map_singleton, List.sum_singleton, DelayCall.duration]
      omega
  · obtain ⟨count, hcalls, hcount⟩ := delays_of_le hfits
    simp only [hcalls, List.map_singleton, List.sum_singleton, DelayCall.duration, hcount]

/-- There is no cadence without a delay call. -/
theorem length_delays_pos (c : Cadence) : 0 < c.delays.length := by
  rw [List.length_pos_iff]
  intro hnil
  have hsum := c.sum_duration_delays
  have hpos := c.micros_pos
  rw [hnil] at hsum
  exact absurd hsum (Nat.ne_of_lt hpos)

/-- No delay call is empty. -/
theorem count_pos_of_mem_delays {c : Cadence} {call : DelayCall} (h : call ∈ c.delays) :
    0 < call.count := by
  rcases Nat.lt_or_ge maxDelayCount c.micros.toNat with hlong | hfits
  · obtain ⟨counts, rest, hcounts, -, hcalls⟩ := delays_of_lt hlong
    rw [hcalls] at h
    rcases List.mem_append.mp h with h | h
    · obtain ⟨count, hcount, rfl⟩ := List.mem_map.mp h
      exact hcounts.pos count hcount
    · split at h
      · cases h
      · next hne =>
        rw [List.mem_singleton.mp h]
        exact Nat.pos_of_ne_zero hne
  · obtain ⟨count, hcalls, hcount⟩ := delays_of_le hfits
    rw [hcalls] at h
    rw [List.mem_singleton.mp h, DelayCall.count, hcount]
    exact c.micros_pos

/-- A cadence of any 64 bits is slept for to the microsecond, in delay calls that are not empty and
whose counts are not cut down. When its microseconds fit 32 bits it is one call for all of them.
Otherwise its whole milliseconds take as many calls as parts of the largest count are needed, and
one more call takes the microseconds beyond them, unless there are none. -/
theorem delays_sleep_one_cadence (c : Cadence) :
    let micros := c.micros.toNat
    (c.delays.map DelayCall.duration).sum = micros ∧
    (∀ call ∈ c.delays, 1 ≤ call.count ∧ call.count ≤ maxDelayCount) ∧
    (micros ≤ maxDelayCount → ∃ count, c.delays = [.micros count] ∧ count.toNat = micros) ∧
    (maxDelayCount < micros → ∃ (counts : List UInt32) (rest : UInt32),
      c.delays = counts.map .millis ++ (if micros % 1000 = 0 then [] else [.micros rest]) ∧
      counts.length = (micros / 1000) ⌈/⌉ maxDelayCount ∧
      (counts.map UInt32.toNat).sum = micros / 1000 ∧ rest.toNat = micros % 1000) := by
  intro micros
  refine ⟨c.sum_duration_delays, fun call hcall => ?_, delays_of_le, fun hlong => ?_⟩
  · exact ⟨count_pos_of_mem_delays hcall, call.count_le⟩
  · obtain ⟨counts, rest, hcounts, hrest, hcalls⟩ := delays_of_lt hlong
    rw [hrest] at hcalls
    exact ⟨counts, rest, hcalls, hcounts.length_eq, hcounts.sum_eq, hrest⟩

end Cadence

end Metronome
