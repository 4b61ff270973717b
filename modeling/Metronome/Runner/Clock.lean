import Metronome.Act

/-!
# The clock of a run

Time passes only in delay calls. The clock counts the microseconds slept and the calls made. The
calls are counted in a word of 32 bits: where that is full, a build that checks its sums ends the
program with the next call, and a build that does not starts again from zero.
-/

namespace Metronome

/-- What becomes of a sum that does not fit its word. -/
inductive Overflow where
  /-- It ends the program. -/
  | aborts
  /-- It is reduced to the word. -/
  | wraps
deriving DecidableEq

/-- The time slept since the start. -/
structure Clock where
  /-- Microseconds. -/
  now : Nat := 0
  /-- Delay calls, in a word that can be full. -/
  counter : UInt32 := 0
  /-- What becomes of one more call than the word can count. -/
  overflow : Overflow := .wraps
deriving DecidableEq

/-- The end of a program by a sum that does not fit its word. -/
def Abort.overflow : Abort := ⟨"attempt to add with overflow"⟩

namespace Clock

/-- The number of delay calls as the clock shows it. -/
def sleeps (c : Clock) : Nat := c.counter.toNat

/-- The clock after a delay call that it counts. -/
def after (c : Clock) (call : DelayCall) : Clock :=
  { c with now := c.now + call.duration, counter := c.counter + 1 }

/-- Whether the next delay call ends the program: the word is full, and sums are checked. -/
def isExhausted (c : Clock) : Bool := c.overflow = .aborts && c.counter.toNat + 1 = UInt32.size

/-- Counts a delay call and sleeps. -/
def sleep (c : Clock) (call : DelayCall) : Except Abort Clock :=
  if c.isExhausted then .error .overflow else .ok (c.after call)

/-- Makes some delay calls in order; `made` are those before them, the last one first. -/
def sleepBehind (made : List DelayCall) (c : Clock) : List DelayCall → Effect Clock Empty Unit
  | [] => ⟨.done (), c, made.reverse.map .delay⟩
  | call :: calls =>
    match c.sleep call with
    | .ok c => sleepBehind (call :: made) c calls
    | .error abort => ⟨.aborted abort, c, made.reverse.map .delay⟩

/-- Makes some delay calls in order. -/
def sleepAll (c : Clock) (calls : List DelayCall) : Effect Clock Empty Unit :=
  sleepBehind [] c calls

end Clock

end Metronome
