import Metronome.Act

/-!
# Boards

The services of a board besides its peripherals: memory figures, the key-value store in flash (NVS)
and a description of the chip.
-/

namespace Metronome

/-- A description of a chip. -/
structure ChipInfo where
  model : String
  cores : Nat
  wifi : Bool
  bluetooth : Bool
  flashMegabytes : Nat
deriving DecidableEq

/-- The chip of the boards that the program is made for. -/
def ChipInfo.standard : ChipInfo := ⟨"esp32s3", 2, true, true, 8⟩

/-- Why the store cannot be used. -/
inductive NvsInitError where
  /-- It is full and has to be erased before use. -/
  | noFreePages
  /-- It was written in a newer format. -/
  | newVersionFound
  /-- Anything else, which cannot be recovered from. -/
  | failed
deriving DecidableEq

/-- The name that log records print. -/
def NvsInitError.name : NvsInitError → String
  | .noFreePages => "NoFreePages"
  | .newVersionFound => "NewVersionFound"
  | .failed => "Failed"

/-- Figures of the allocator. -/
class MemoryStats (β : Type) where
  /-- Free bytes in the external memory, zero when there is none. -/
  freeExternal : Act β Empty Nat
  /-- The lowest figure of free memory since the start. -/
  minFreeHeap : Act β Empty Nat

/-- A board. -/
class Board (β : Type) extends MemoryStats β where
  /-- Brings the store up. -/
  initNvs : Act β NvsInitError Unit
  /-- Erases the store. -/
  eraseNvs : Act β DriverError Unit
  /-- The chip. -/
  chipInfo : β → ChipInfo

/-! ## Operations as data -/

/-- One operation on a board. -/
inductive BoardOp where
  | initNvs
  | eraseNvs
  | freeExternal
  | minFreeHeap
  | chipInfo
deriving DecidableEq

/-- What an operation answers. -/
inductive BoardAnswer where
  | done
  | unusable (reason : NvsInitError)
  | refused (error : DriverError)
  | bytes (count : Nat)
  | chip (info : ChipInfo)
deriving DecidableEq

/-- Does an operation. -/
def BoardOp.run {β : Type} [Board β] : BoardOp → Act β Empty BoardAnswer
  | .initNvs =>
    (do Board.initNvs; pure .done : Act β NvsInitError BoardAnswer).orElse fun e =>
      pure (.unusable e)
  | .eraseNvs =>
    (do Board.eraseNvs; pure .done : Act β DriverError BoardAnswer).orElse fun e =>
      pure (.refused e)
  | .freeExternal => do return .bytes (← MemoryStats.freeExternal)
  | .minFreeHeap => do return .bytes (← MemoryStats.minFreeHeap)
  | .chipInfo => do return .chip (Board.chipInfo (← Act.get))

end Metronome
