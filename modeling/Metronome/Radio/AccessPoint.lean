import Metronome.Settings.Defaults
import Metronome.Text.Fitting

/-!
# Access points

One entry of a scan: the name of a network, the strength of its signal, its channel and how it
authenticates its clients.
-/

namespace Metronome

/-- How an access point authenticates its clients. -/
inductive AuthMode where
  | openNetwork
  | wep
  | wpa
  | wpa2
  | wpaWpa2
  | wpa2Enterprise
  | wpa3
  | wpa2Wpa3
  | wapi
  | unknown
deriving DecidableEq

/-- Whether a network asks for no secret at all. -/
def AuthMode.isOpen : AuthMode → Bool
  | .openNetwork => true
  | _ => false

/-- The word for an authentication. -/
def AuthMode.label : AuthMode → String
  | .openNetwork => "open"
  | .wep => "WEP"
  | .wpa => "WPA"
  | .wpa2 => "WPA2"
  | .wpaWpa2 => "WPA/WPA2"
  | .wpa2Enterprise => "WPA2-Enterprise"
  | .wpa3 => "WPA3"
  | .wpa2Wpa3 => "WPA2/WPA3"
  | .wapi => "WAPI"
  | .unknown => "unknown"

/-- One entry of a scan. -/
structure AccessPoint where
  /-- The name of the network. -/
  ssid : String
  /-- The received signal strength in dBm. -/
  rssi : Int
  channel : Nat
  auth : AuthMode
deriving DecidableEq

/-- The longest beginning of a name that an entry can hold. -/
def fittingSsid (name : String) : String := String.ofList (fitting maxSsidBytes name.toList)

/-- An entry for a network as a radio reports it: its name is cut to what fits. -/
def AccessPoint.heard (name : String) (rssi : Int) (channel : Nat) (auth : AuthMode) :
    AccessPoint :=
  { ssid := fittingSsid name, rssi, channel, auth }

end Metronome
