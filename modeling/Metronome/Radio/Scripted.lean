import Metronome.Radio.Basic
import Metronome.Script

/-!
# Scripted radios

Two radios that replay planned scans. `ScriptedRadio` records its calls and can fail in any of them,
also after it has found something. `BatchRadio` records nothing but counts its calls.
-/

namespace Metronome

/-! ## Radios with planned faults -/

/-- One planned scan. -/
structure Batch where
  /-- What the scan finds. -/
  found : List AccessPoint := []
  /-- Access points it leaves out besides those that do not fit. -/
  extraDropped : Nat := 0
  /-- The error it ends with. -/
  error : Option DriverError := none

/-- A radio that replays planned outcomes. -/
structure ScriptedRadio where
  start : Script DriverError := []
  disconnects : Script DriverError := []
  /-- The scans to come; then nothing is found any more. -/
  batches : List Batch := []
  /-- Scans so far. -/
  scans : Nat := 0

namespace ScriptedRadio

/-- Replays the next scan. -/
def scan : Act (ScriptedRadio × ScanResults) DriverError Nat := do
  let (radio, buffer) ← Act.get
  Act.emit (.radio (.scan buffer.size))
  let batch := radio.batches.head?.getD {}
  Act.set ({ radio with batches := radio.batches.tail, scans := radio.scans + 1 }, buffer)
  let dropped ← Radio.report batch.found
  match batch.error with
  | some e => Act.fail e
  | none => pure (dropped + batch.extraDropped)

instance : Radio ScriptedRadio where
  startStation := do
    Act.emit (.radio .startStation)
    Act.play start fun script radio => { radio with start := script }
  disconnect := do
    Act.emit (.radio .disconnect)
    Act.play disconnects fun script radio => { radio with disconnects := script }
  scan

end ScriptedRadio

/-! ## Radios that count -/

/-- A radio that replays batches of access points and counts its calls. -/
structure BatchRadio where
  /-- What the scans to come find. -/
  batches : List (List AccessPoint) := []
  stationStarted : Bool := false
  disconnects : Nat := 0
  /-- Successful scans so far. -/
  scans : Nat := 0
  /-- Whether scans fail. -/
  failScan : Bool := false

namespace BatchRadio

/-- Replays the next batch. -/
def scan : Act (BatchRadio × ScanResults) DriverError Nat := do
  let (radio, buffer) ← Act.get
  if radio.failScan then Act.fail (.peripheral "mock wifi" "scan")
  Act.set ({ radio with batches := radio.batches.tail, scans := radio.scans + 1 }, buffer)
  Radio.report (radio.batches.head?.getD [])

instance : Radio BatchRadio where
  startStation := Act.modify fun radio => { radio with stationStarted := true }
  disconnect := Act.modify fun radio => { radio with disconnects := radio.disconnects + 1 }
  scan

end BatchRadio

end Metronome
