import Metronome.Radio.Basic

/-!
# Radios with drifting signals

The radio of the desktop simulator. It always sees the same networks; their signals drift slowly,
and in every third scan one of them is out of range.
-/

namespace Metronome

/-- A radio that counts its scans. -/
structure DriftingRadio where
  scans : Nat := 0
deriving DecidableEq

namespace DriftingRadio

/-- The networks that the radio can see, with the signals around which they drift. -/
def networks : List AccessPoint :=
  [⟨"pacer-lab", -42, 1, .wpa2⟩, ⟨"coffee-shop", -71, 6, .openNetwork⟩,
   ⟨"neighbour-5G", -83, 11, .wpa2Wpa3⟩, ⟨"printer-setup", -64, 6, .openNetwork⟩,
   ⟨"warehouse", -77, 3, .wpa3⟩]

/-- The change of a network's signal in a scan: a sine wave with an amplitude of six, cut to a whole
number towards zero. -/
def drift (scan place : Nat) : Int :=
  (6.0 * Float.sin (Float.ofNat scan / 3.0 + Float.ofNat place)).toInt8.toInt

/-- Whether a network is in range. -/
def inRange (scan place : Nat) : Bool := !(place = 2 && scan % 3 = 0)

/-- What a scan sees, counted from one. -/
def seen (scan : Nat) : List AccessPoint :=
  networks.zipIdx.filterMap fun (ap, place) =>
    if inRange scan place then
      some (AccessPoint.heard ap.ssid (ap.rssi + drift scan place) ap.channel ap.auth)
    else
      none

/-- Scans once. -/
def scan : Act (DriftingRadio × ScanResults) DriverError Nat := do
  let (radio, buffer) ← Act.get
  let scans := radio.scans + 1
  Act.set ({ scans }, buffer)
  Radio.report (seen scans)

instance : Radio DriftingRadio where
  startStation := Act.log .info .simulatedPeripherals "Wi-Fi: station mode"
  disconnect := Act.log .info .simulatedPeripherals "Wi-Fi: disconnected"
  scan

end DriftingRadio

end Metronome
