import Metronome.Board.Basic
import Metronome.Board.LowWater
import Metronome.Board.Readings
import Metronome.Settings.Defaults

/-!
# The chip as a board

The allocator of the chip reports only the current figures, so the lowest one is kept in a mark that
every reading goes through. There is no store to bring up. `ChipHeap.startBoard` and
`startScheduler` are the first things that the firmware does.
-/

namespace Metronome

/-- The allocator's figures to come. -/
structure ChipHeap where
  /-- Free memory. -/
  free : Readings
  /-- Free external memory. -/
  external : Readings
deriving DecidableEq

/-- The chip as a board. -/
structure ChipBoard where
  heap : ChipHeap
  /-- The lowest figure of free memory so far. -/
  lowest : LowWaterMark
deriving DecidableEq

namespace ChipBoard

/-- The board with a mark at the present figure. -/
def create (heap : ChipHeap) : ChipBoard :=
  { heap := { heap with free := heap.free.advance }, lowest := ⟨heap.free.current⟩ }

/-- Takes a reading of the free memory through the mark. -/
def minFreeHeap : Act ChipBoard Empty Nat := do
  let board ← Act.get
  let lowest := board.lowest.observe board.heap.free.current
  Act.set { heap := { board.heap with free := board.heap.free.advance }, lowest }
  pure lowest.low

/-- Takes a reading of the free external memory. -/
def freeExternal : Act ChipBoard Empty Nat := do
  let board ← Act.get
  Act.set { board with heap := { board.heap with external := board.heap.external.advance } }
  pure board.heap.external.current

instance : Board ChipBoard where
  freeExternal
  minFreeHeap
  initNvs := Act.log .debug .chip "NVS: no partition in use on this runtime"
  eraseNvs := pure ()
  chipInfo _ :=
    { ChipInfo.standard with flashMegabytes := FirmwareSettings.standard.flashSizeMegabytes }

end ChipBoard

/-! ## Starting the firmware -/

/-- The size of the internal heap. -/
def internalHeapSize : Nat := 73744

/-- Brings up the log, the clocks and the heaps, in this order. -/
def startBoard : Act ChipHeap Empty Unit := do
  Act.emit (.chip .startLog)
  Act.emit (.chip (.startClocks 240))
  Act.emit (.chip (.internalHeap internalHeapSize))
  Act.emit (.chip .externalHeap)
  let heap ← Act.get
  Act.set { heap with free := heap.free.advance }
  let free := heap.free.current
  Act.log .info .boardStart
    s!"Board initialized, console at {consoleBaudRate} baud, {free} bytes heap free"

/-- Starts the scheduler. -/
def startScheduler : Act ChipHeap Empty Unit := do
  Act.emit (.chip .startScheduler)
  Act.log .info .boardStart "Embassy initialized!"

end Metronome
