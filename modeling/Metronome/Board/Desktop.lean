import Metronome.Board.Basic

/-!
# The board of the desktop simulator

A board with eight megabytes of external memory that is never used.
-/

namespace Metronome

/-- The board of the simulator; it has no state. -/
structure DesktopBoard where
deriving DecidableEq

namespace DesktopBoard

/-- The size of the external memory. -/
def externalSize : Nat := 8 * 1024 * 1024

instance : Board DesktopBoard where
  freeExternal := pure externalSize
  minFreeHeap := pure 73744
  initNvs := Act.log .info .simulatedPeripherals "NVS: simulated partition ready"
  eraseNvs := pure ()
  chipInfo _ := .standard

end DesktopBoard

end Metronome
