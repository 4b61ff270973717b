import Metronome.Pin.Edges
import Metronome.Runner.Clock

/-!
# A bench for an edge-recording pin

A pin and a delay device on one clock. Operations on the pin happen at the clock's instant, and only
delays let time pass.
-/

namespace Metronome

/-- One operation at the bench. -/
inductive BenchOp where
  | pin (op : PinOp)
  /-- Lets writes fail or succeed from now on. -/
  | failWrites (on : Bool)
  | sleep (call : DelayCall)
deriving DecidableEq

/-- A pin and a clock. -/
structure Bench where
  pin : EdgePin := {}
  clock : Clock := {}
deriving DecidableEq

namespace Bench

/-- Does an operation. Only those on the pin have an answer, and delays that end the program. -/
def perform (bench : Bench) : BenchOp → Option (Outcome Fault PinAnswer) × Bench
  | .pin op =>
    let e := op.run bench.clock.now bench.pin
    (some e.outcome, { bench with pin := e.state })
  | .failWrites on => (none, { bench with pin := { bench.pin with failWrites := on } })
  | .sleep call =>
    match bench.clock.sleep call with
    | .ok clock => (none, { bench with clock })
    | .error abort => (some (.aborted abort), bench)

/-- The bench after some operations. -/
def after (bench : Bench) (ops : List BenchOp) : Bench :=
  ops.foldl (fun bench op => (bench.perform op).2) bench

end Bench

end Metronome
