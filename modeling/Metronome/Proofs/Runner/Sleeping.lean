import Mathlib.Algebra.GroupWithZero.Nat
import Metronome.Runner.Clock

/-!
# Delay calls that a clock can count

A clock can count some more delay calls when its sums wrap or its word has room for them
(`Clock.Allows`). Then it makes them all and stands where they lead (`Clock.sleepAll_of_allows`).
Otherwise it ends the program on the way (`Clock.outcome_sleepAll`).
-/

namespace Metronome

namespace Clock

/-- The clock can count `n` more delay calls. -/
def Allows (c : Clock) (n : Nat) : Prop :=
  c.overflow = .wraps ∨ c.counter.toNat + n < UInt32.size

instance (c : Clock) (n : Nat) : Decidable (c.Allows n) :=
  inferInstanceAs (Decidable (_ ∨ _))

/-- The clock after some delay calls, all of which it counts. -/
def afterAll (c : Clock) (calls : List DelayCall) : Clock := calls.foldl after c

variable {c : Clock} {call : DelayCall} {calls : List DelayCall} {n m : Nat}

/-- A clock that can count some calls can count fewer. -/
theorem Allows.mono (h : c.Allows n) (hle : m ≤ n) : c.Allows m :=
  h.imp_right fun hroom => Nat.lt_of_le_of_lt (Nat.add_le_add_left hle _) hroom

/-- No room is needed for no calls. -/
theorem allows_zero (c : Clock) : c.Allows 0 := Or.inr (UInt32.toNat_lt c.counter)

/-- A clock whose sums wrap is never full. -/
theorem allows_of_wraps (h : c.overflow = .wraps) (n : Nat) : c.Allows n := Or.inl h

/-- The next call ends the program exactly when there is no room for it. -/
theorem isExhausted_eq (c : Clock) : c.isExhausted = !decide (c.Allows 1) := by
  obtain ⟨now, counter, overflow⟩ := c
  have hword := UInt32.toNat_lt counter
  have hsize : UInt32.size = 2 ^ 32 := rfl
  cases overflow with
  | wraps => simp [isExhausted, Allows]
  | aborts =>
    by_cases hfull : counter.toNat + 1 = UInt32.size
    · simp [isExhausted, Allows, hfull]
    · have hroom : counter.toNat + 1 < UInt32.size := by omega
      simp [isExhausted, Allows, hfull, hroom]

/-- With room for it, a call is counted. -/
theorem sleep_of_allows (h : c.Allows 1) (call : DelayCall) :
    c.sleep call = .ok (c.after call) := by
  rw [sleep, isExhausted_eq, decide_eq_true h]
  rfl

/-- Without room for it, a call ends the program. -/
theorem sleep_of_not_allows (h : ¬ c.Allows 1) (call : DelayCall) :
    c.sleep call = .error .overflow := by
  rw [sleep, isExhausted_eq, decide_eq_false h]
  rfl

/-- A call never turns the clock back. -/
theorem now_le_of_sleep {next : Clock} (h : c.sleep call = .ok next) : c.now ≤ next.now := by
  rw [sleep] at h
  split at h
  · cases h
  · cases h
    exact Nat.le_add_right ..

/-- A call takes the room of one. -/
theorem allows_after (h : c.Allows 1) : (c.after call).Allows n ↔ c.Allows (1 + n) := by
  unfold Allows after at *
  rcases h with hwraps | hroom
  · simp [hwraps]
  · have hcount : (c.counter + 1).toNat = c.counter.toNat + 1 := by
      rw [UInt32.toNat_add]
      exact Nat.mod_eq_of_lt hroom
    rw [hcount, Nat.add_assoc]

/-- Calls take the room of as many as they are. -/
theorem allows_afterAll (h : c.Allows calls.length) :
    (c.afterAll calls).Allows n ↔ c.Allows (calls.length + n) := by
  induction calls generalizing c with
  | nil => rw [List.length_nil, Nat.zero_add]; rfl
  | cons call calls ih =>
    have hone : c.Allows 1 := h.mono (Nat.le_add_left ..)
    have hrest : (c.after call).Allows calls.length := by
      rw [allows_after hone, Nat.add_comm]
      exact h
    have hlength : 1 + (calls.length + n) = (call :: calls).length + n := by
      rw [List.length_cons]
      omega
    rw [← hlength, ← allows_after hone]
    exact ih hrest

/-- The time moves by all that the calls sleep for. -/
theorem now_afterAll (c : Clock) (calls : List DelayCall) :
    (c.afterAll calls).now = c.now + (calls.map DelayCall.duration).sum := by
  induction calls generalizing c with
  | nil => rfl
  | cons call calls ih =>
    have hrest := ih (c.after call)
    rw [List.map_cons, List.sum_cons, ← Nat.add_assoc]
    exact hrest

/-! ## Calls one after the other -/

/-- The calls made before only stand in front of the trace. -/
theorem sleepBehind_eq (made : List DelayCall) (c : Clock) (calls : List DelayCall) :
    sleepBehind made c calls =
      ⟨(c.sleepAll calls).outcome, (c.sleepAll calls).state,
        made.reverse.map .delay ++ (c.sleepAll calls).trace⟩ := by
  unfold sleepAll
  induction calls generalizing made c with
  | nil => simp [sleepBehind]
  | cons call calls ih =>
    rw [sleepBehind, sleepBehind]
    cases c.sleep call with
    | ok next =>
      simp only [ih (call :: made), ih [call], List.reverse_cons, List.map_append,
        List.append_assoc, List.reverse_nil, List.nil_append]
    | error abort => simp

/-- The first call either is counted, and the others follow, or it ends the program. -/
theorem sleepAll_cons (c : Clock) (call : DelayCall) (calls : List DelayCall) :
    c.sleepAll (call :: calls) =
      if c.Allows 1 then
        ⟨((c.after call).sleepAll calls).outcome, ((c.after call).sleepAll calls).state,
          .delay call :: ((c.after call).sleepAll calls).trace⟩
      else ⟨.aborted .overflow, c, []⟩ := by
  rw [sleepAll, sleepBehind]
  by_cases h : c.Allows 1
  · rw [if_pos h, sleep_of_allows h]
    exact sleepBehind_eq [call] (c.after call) calls
  · rw [if_neg h, sleep_of_not_allows h]
    rfl

/-- With room for all of the calls, all of them are made. -/
theorem sleepAll_of_allows (h : c.Allows calls.length) :
    c.sleepAll calls = ⟨.done (), c.afterAll calls, calls.map .delay⟩ := by
  induction calls generalizing c with
  | nil => rfl
  | cons call calls ih =>
    have hone : c.Allows 1 := h.mono (Nat.le_add_left ..)
    have hrest : (c.after call).Allows calls.length := by
      rw [allows_after hone, Nat.add_comm]
      exact h
    rw [sleepAll_cons, if_pos hone, ih hrest]
    rfl

/-- Without room for all of them, the program ends. -/
theorem outcome_sleepAll (c : Clock) (calls : List DelayCall) :
    (c.sleepAll calls).outcome =
      if c.Allows calls.length then .done () else .aborted .overflow := by
  by_cases h : c.Allows calls.length
  · rw [if_pos h, sleepAll_of_allows h]
  · rw [if_neg h]
    induction calls generalizing c with
    | nil => exact absurd c.allows_zero h
    | cons call calls ih =>
      rw [sleepAll_cons]
      by_cases hone : c.Allows 1
      · rw [if_pos hone]
        refine ih (c.after call) ?_
        rw [allows_after hone, Nat.add_comm]
        exact h
      · rw [if_neg hone]

/-- With room for the first calls, the others follow them. -/
theorem sleepAll_append_of_allows (h : c.Allows calls.length) (later : List DelayCall) :
    c.sleepAll (calls ++ later) =
      ⟨((c.afterAll calls).sleepAll later).outcome, ((c.afterAll calls).sleepAll later).state,
        calls.map .delay ++ ((c.afterAll calls).sleepAll later).trace⟩ := by
  induction calls generalizing c with
  | nil => rfl
  | cons call calls ih =>
    have hone : c.Allows 1 := h.mono (Nat.le_add_left ..)
    have hrest : (c.after call).Allows calls.length := by
      rw [allows_after hone, Nat.add_comm]
      exact h
    rw [List.cons_append, sleepAll_cons, if_pos hone, ih hrest]
    rfl

/-- Without room for the first calls, it does not matter which others would follow. -/
theorem sleepAll_append_of_full (h : ¬ c.Allows calls.length) (later : List DelayCall) :
    c.sleepAll (calls ++ later) = c.sleepAll calls := by
  induction calls generalizing c with
  | nil => exact absurd c.allows_zero h
  | cons call calls ih =>
    rw [List.cons_append, sleepAll_cons, sleepAll_cons]
    by_cases hone : c.Allows 1
    · have hrest : ¬ (c.after call).Allows calls.length := by
        rw [allows_after hone, Nat.add_comm]
        exact h
      rw [ih hrest]
    · rw [if_neg hone, if_neg hone]

end Clock

end Metronome
