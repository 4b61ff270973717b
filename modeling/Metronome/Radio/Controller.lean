import Metronome.Radio.Basic
import Metronome.Script

/-!
# The chip's radio controller

Station-mode scans through the controller of the chip. The controller is planned here: `config`,
`start`, `disconnects` and `scans` are what its calls answer. A failing disconnect is no failure,
since after a reset there is no association to drop.
-/

namespace Metronome

/-- How the controller names an authentication. -/
inductive AuthMethod where
  | none
  | wep
  | wpa
  | wpa2Personal
  | wpaWpa2Personal
  | wpa2Enterprise
  | wpa3Personal
  | wpa2Wpa3Personal
  | wapiPersonal
deriving DecidableEq

/-- The authentication of an access point for which the controller reports a method, or none. -/
def AuthMode.ofMethod : Option AuthMethod → AuthMode
  | .none | some .none => .openNetwork
  | some .wep => .wep
  | some .wpa => .wpa
  | some .wpa2Personal => .wpa2
  | some .wpaWpa2Personal => .wpaWpa2
  | some .wpa2Enterprise => .wpa2Enterprise
  | some .wpa3Personal => .wpa3
  | some .wpa2Wpa3Personal => .wpa2Wpa3
  | some .wapiPersonal => .wapi

/-- An access point as the controller reports it. -/
structure Station where
  ssid : String
  signal : Int
  channel : Nat
  method : Option AuthMethod
deriving DecidableEq

/-- The entry for a reported access point. -/
def Station.accessPoint (s : Station) : AccessPoint :=
  AccessPoint.heard s.ssid s.signal s.channel (AuthMode.ofMethod s.method)

/-- The controller with the answers to its coming calls. -/
structure RadioController where
  config : Script Fault := []
  start : Script Fault := []
  disconnects : Script Fault := []
  /-- What the coming scans find; then they find nothing. -/
  scans : List (Except Fault (List Station)) := []

namespace RadioController

/-- Logs what went wrong and fails with the error of the radio. -/
def refuse {σ α : Type} (what operation : String) (e : Fault) : Act σ DriverError α := do
  Act.log .error .radioController s!"{what} failed: {e.name}"
  Act.fail (.peripheral "Wi-Fi" operation)

/-- Configures a station and starts it. -/
def startStation : Act RadioController DriverError Unit := do
  Act.emit (.chip .configureStation)
  (Act.play config fun script c => { c with config := script }).orElse
    (refuse "Wi-Fi station config" "enter station mode")
  Act.emit (.chip .startWifi)
  (Act.play start fun script c => { c with start := script }).orElse
    (refuse "Wi-Fi start" "start radio")
  Act.log .info .radioController "Wi-Fi started in station mode"

/-- Disconnects; an error is only logged. -/
def disconnect : Act RadioController DriverError Unit := do
  Act.emit (.chip .disconnectWifi)
  (Act.play disconnects fun script c => { c with disconnects := script }).orElse fun e =>
    Act.log .debug .radioController s!"Wi-Fi disconnect: {e.name}"

/-- Scans once. -/
def scan : Act (RadioController × ScanResults) DriverError Nat := do
  Act.emit (.chip .scanWifi)
  let (controller, buffer) ← Act.get
  Act.set ({ controller with scans := controller.scans.tail }, buffer)
  match controller.scans.head?.getD (.ok []) with
  | .error e => refuse "Wi-Fi scan" "scan" e
  | .ok found => Radio.report (found.map Station.accessPoint)

instance : Radio RadioController where
  startStation
  disconnect
  scan

end RadioController

end Metronome
