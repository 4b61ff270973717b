import Metronome.Board.Basic
import Metronome.Board.Readings
import Metronome.Script

/-!
# Scripted boards

`ScriptedBoard` records what is done to its store and replays planned outcomes. `QuietBoard` replays
the store's outcomes and records nothing.
-/

namespace Metronome

/-! ## A board with planned outcomes -/

/-- A board that replays planned outcomes. -/
structure ScriptedBoard where
  nvs : Script NvsInitError := []
  erase : Script DriverError := []
  /-- The readings of the free external memory. -/
  external : Readings := ⟨2097152, []⟩
  /-- The lowest figure of free memory. -/
  heap : Nat := 300000
  chip : ChipInfo := .standard
  /-- Successful erases so far. -/
  erases : Nat := 0
deriving DecidableEq

namespace ScriptedBoard

instance : Board ScriptedBoard where
  freeExternal := do
    let board ← Act.get
    Act.set { board with external := board.external.advance }
    pure board.external.current
  minFreeHeap := do return (← Act.get).heap
  initNvs := do
    Act.emit (.board .initNvs)
    Act.play nvs fun script board => { board with nvs := script }
  eraseNvs := do
    Act.emit (.board .eraseNvs)
    Act.play erase fun script board => { board with erase := script }
    Act.modify fun board => { board with erases := board.erases + 1 }
  chipInfo board := board.chip

end ScriptedBoard

/-! ## A board that records nothing -/

/-- A board whose store answers as planned. -/
structure QuietBoard where
  nvs : Script NvsInitError := []
  /-- Erases so far. -/
  erases : Nat := 0
  /-- Free bytes in the external memory. -/
  external : Nat := 2097152
deriving DecidableEq

namespace QuietBoard

instance : Board QuietBoard where
  freeExternal := do return (← Act.get).external
  minFreeHeap := pure 300000
  initNvs := Act.play nvs fun script board => { board with nvs := script }
  eraseNvs := Act.modify fun board => { board with erases := board.erases + 1 }
  chipInfo _ := .standard

end QuietBoard

end Metronome
