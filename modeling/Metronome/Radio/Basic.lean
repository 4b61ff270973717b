import Metronome.Act
import Metronome.Radio.ScanResults

/-!
# Radios

A Wi-Fi radio that scans in station mode.
-/

namespace Metronome

/-- A radio that can look for access points. -/
class Radio (ρ : Type) where
  /-- Starts the radio in station mode. -/
  startStation : Act ρ DriverError Unit
  /-- Drops an association that may be left from before. -/
  disconnect : Act ρ DriverError Unit
  /-- Scans once and adds what it finds to the buffer. Answers how many were left out. -/
  scan : Act (ρ × ScanResults) DriverError Nat

/-- Adds access points to the buffer of a scan. Answers how many were left out. -/
def Radio.report {ρ ε : Type} (aps : List AccessPoint) : Act (ρ × ScanResults) ε Nat := do
  let (radio, buffer) ← Act.get
  let (filled, dropped) := buffer.pushAll aps
  Act.set (radio, filled)
  pure dropped

end Metronome
