import Metronome.Pin.Basic

/-!
# Pins with planned faults

A pin whose failing calls are planned by number. Writes of either level share one count, reads of
either kind another, changes of direction a third. A failing call changes nothing but its count.
-/

namespace Metronome

/-- The calls that fail, by number from zero. -/
abbrev FaultPlan := Nat → Bool

/-- A plan without faults. -/
def FaultPlan.none : FaultPlan := fun _ => false

/-- A plan that fails the listed calls. -/
def FaultPlan.ofList (calls : List Nat) : FaultPlan := fun n => calls.contains n

/-- A pin with planned faults. -/
structure ScriptedPin where
  direction : Direction := .input
  /-- The output latch. -/
  latch : Level := .low
  /-- The level that reads report in place of the latch. -/
  stuck : Option Level := none
  failWrites : FaultPlan := .none
  failReads : FaultPlan := .none
  failDirection : FaultPlan := .none
  /-- Writes so far. -/
  writes : Nat := 0
  /-- Reads so far. -/
  reads : Nat := 0
  /-- Changes of direction so far. -/
  turns : Nat := 0

namespace ScriptedPin

/-- The error of a planned fault. -/
def fault : Fault := ⟨"PinFault"⟩

/-- Writes a level unless this write is planned to fail. -/
def write (level : Level) : Act ScriptedPin Fault Unit := do
  let pin ← Act.get
  let failed := pin.failWrites pin.writes
  Act.emit (.pin (.write level) failed)
  Act.modify fun pin => { pin with writes := pin.writes + 1 }
  if failed then Act.fail fault
  Act.modify fun pin => { pin with latch := level }

/-- The level that reads report, unless this read is planned to fail. -/
def read : Act ScriptedPin Fault Level := do
  let pin ← Act.get
  Act.modify fun pin => { pin with reads := pin.reads + 1 }
  if pin.failReads pin.reads then Act.fail fault
  pure (pin.stuck.getD pin.latch)

/-- Takes a direction unless this change is planned to fail. -/
def setDirection (direction : Direction) : Act ScriptedPin Fault Unit := do
  let pin ← Act.get
  let failed := pin.failDirection pin.turns
  Act.emit (.pin (.direct direction) failed)
  Act.modify fun pin => { pin with turns := pin.turns + 1 }
  if failed then Act.fail fault
  Act.modify fun pin => { pin with direction }

instance : LedPin ScriptedPin where
  write
  isSetHigh := do return (← read).isHigh
  isSetLow := do return !(← read).isHigh
  setDirection
  direction pin := pin.direction

end ScriptedPin

end Metronome
