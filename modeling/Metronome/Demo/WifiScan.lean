import Metronome.Demo.ScanReport
import Metronome.Driver
import Metronome.Radio.Basic
import Metronome.Radio.Ranking

/-!
# Scanning for access points

Each step scans once and prints the strongest access points, the strongest first.
-/

namespace Metronome

/-- A driver that scans and reports. -/
structure WifiScan (ρ κ : Type) where
  radio : ρ
  console : κ
  /-- What the last scan found. -/
  results : ScanResults := .empty
  /-- How many access points the last scan left out. -/
  dropped : Nat := 0
  /-- The order of a report. -/
  ranking : Ranking := .stable

namespace WifiScan

variable {ρ κ : Type} [Radio ρ] [Console κ]

/-- Uses the radio. -/
def useRadio (x : Act ρ DriverError Unit) : Act (WifiScan ρ κ) DriverError Unit :=
  x.on WifiScan.radio fun radio scan => { scan with radio }

/-- Uses the console. -/
def useConsole (x : Act κ DriverError Unit) : Act (WifiScan ρ κ) DriverError Unit :=
  x.on WifiScan.console fun console scan => { scan with console }

/-- Scans into the result buffer. -/
def scanRadio : Act (WifiScan ρ κ) DriverError Nat :=
  Act.on (fun scan => (scan.radio, scan.results))
    (fun (radio, results) scan => { scan with radio, results }) Radio.scan

/-- Starts the radio and greets. -/
def setUp : Act (WifiScan ρ κ) DriverError Unit := do
  useRadio Radio.startStation
  useRadio Radio.disconnect
  useConsole (Console.print ["Setup done\n"])

/-- Warns when some access points were left out. -/
def warnDropped (scan : WifiScan ρ κ) : Act (WifiScan ρ κ) DriverError Unit := do
  if scan.dropped > 0 then
    let seen := scan.results.size + scan.dropped
    Act.log .warn .wifiScan
      s!"scan saw {seen} access points, reporting the strongest {maxAccessPoints}"

/-- Scans and reports. -/
def step : Act (WifiScan ρ κ) DriverError Step := do
  useConsole (Console.print ["scan start\n"])
  Act.modify fun scan => { scan with results := .empty }
  let dropped ← scanRadio
  Act.modify fun scan => { scan with dropped }
  warnDropped (← Act.get)
  Act.modify fun scan => { scan with results := scan.results.ranked scan.ranking }
  let results := (← Act.get).results
  Act.log .info .wifiScan s!"scan found {results.size} access points"
  useConsole (printScanReport results.entries)
  pure .next

instance : Driver (WifiScan ρ κ) where
  name _ := "wifi-scan"
  cadence _ := wifiScanCadence
  setUp
  step

end WifiScan

end Metronome
