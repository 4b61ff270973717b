import Metronome.Board.Basic

/-!
# Bringing the store up

The store is erased only when it reports that it is full or written in a newer format, and then it
is tried once more.
-/

namespace Metronome

variable {β : Type} [Board β]

/-- Erases the store and tries it again. -/
def retryNvs (reason : NvsInitError) : Act β DriverError Unit := do
  Act.log .warn .helloWorld s!"NVS unusable ({reason.name}), erasing"
  Board.eraseNvs
  Act.orElse Board.initNvs fun e => do
    Act.log .error .helloWorld s!"NVS init after erase failed: {e.name}"
    Act.fail (.peripheral "NVS" "initialise after erase")

/-- Brings the store up, erasing it once if that can help. -/
def initNvs : Act β DriverError Unit :=
  Act.orElse Board.initNvs fun
    | .noFreePages => retryNvs .noFreePages
    | .newVersionFound => retryNvs .newVersionFound
    | .failed => do
      Act.log .error .helloWorld s!"NVS init failed: {NvsInitError.failed.name}"
      Act.fail (.peripheral "NVS" "initialise")

end Metronome
