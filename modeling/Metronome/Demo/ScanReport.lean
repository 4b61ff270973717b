import Metronome.Console.Basic
import Metronome.Radio.ScanResults

/-!
# Scan reports

The block that follows `scan start`: how many networks were found, one line for each of them with
its rank, name, signal strength and a star when it asks for a secret, and an empty line.
-/

namespace Metronome

/-- The mark behind a network: a star unless it is open. -/
def AccessPoint.marker (ap : AccessPoint) : String := if ap.auth.isOpen then " " else "*"

/-- The pieces of one line. -/
def AccessPoint.line (rank : Nat) (ap : AccessPoint) : List String :=
  [toString rank, ": ", ap.ssid, " (", toString ap.rssi, ")", ap.marker, "\n"]

/-- The pieces of the lines from some rank on. -/
def networkLines : Nat → List AccessPoint → List String
  | _, [] => []
  | rank, ap :: aps => ap.line rank ++ networkLines (rank + 1) aps

/-- The pieces of a report. -/
def scanReport (aps : List AccessPoint) : List String :=
  let found :=
    if aps = [] then ["no networks found\n"]
    else [toString aps.length, " networks found\n"] ++ networkLines 1 aps
  ["scan done\n"] ++ found ++ ["\n"]

/-- Writes a report. -/
def printScanReport {κ : Type} [Console κ] (aps : List AccessPoint) : Act κ DriverError Unit :=
  Console.print (scanReport aps)

end Metronome
