import Metronome.Delay
import Metronome.Pin.Level
import Metronome.Strip.Rgb

/-!
# Traces

Everything that a run does to its surroundings, in order: log records, text on a console, delay
calls, and the calls made to peripherals. A trace is a list of such events.
-/

namespace Metronome

/-! ## Log records -/

/-- How urgent a log record is. -/
inductive Severity where
  | error
  | warn
  | info
  | debug
deriving DecidableEq

/-- The number of a severity: the more urgent the lower. -/
def Severity.rank : Severity → Nat
  | .error => 1
  | .warn => 2
  | .info => 3
  | .debug => 4

/-- The name of a severity. -/
def Severity.name : Severity → String
  | .error => "error"
  | .warn => "warn"
  | .info => "info"
  | .debug => "debug"

/-- The part of the program that writes a log record. -/
inductive Component where
  | runner
  | blink
  | wifiScan
  | rgbCycle
  | helloWorld
  | frameBuffer
  | simulator
  | simulatedPeripherals
  | boardStart
  | serialConsole
  | chip
  | radioController
deriving DecidableEq

/-- The path under which a component logs. -/
def Component.path : Component → String
  | .runner => "pacer_core::runner"
  | .blink => "pacer_core::demos::blink"
  | .wifiScan => "pacer_core::demos::wifi_scan"
  | .rgbCycle => "pacer_core::demos::rgb_cycle"
  | .helloWorld => "pacer_core::demos::hello_world"
  | .frameBuffer => "pacer_core::strip"
  | .simulator => "pacer_simulator"
  | .simulatedPeripherals => "pacer_simulator::peripherals"
  | .boardStart => "pacer_firmware::board"
  | .serialConsole => "pacer_firmware::console"
  | .chip => "pacer_firmware::system"
  | .radioController => "pacer_firmware::wifi"

/-- A log record. -/
structure LogRecord where
  /-- How urgent it is. -/
  severity : Severity
  /-- Who writes it. -/
  source : Component
  /-- Whether the time since the start is written in front of the text. -/
  timed : Bool := false
  /-- What it says. -/
  text : String
deriving DecidableEq

/-! ## Calls to peripherals -/

/-- A call to a pin. Reads are not recorded. -/
inductive PinCall where
  | write (level : Level)
  | direct (direction : Direction)
deriving DecidableEq

/-- A call to a radio. -/
inductive RadioCall where
  | startStation
  | disconnect
  /-- A scan into a buffer that already holds some entries. -/
  | scan (held : Nat)
deriving DecidableEq

/-- A call to a pixel strip. -/
inductive StripCall where
  | setBrightness (brightness : UInt8)
  | setPixel (index : Nat) (colour : Rgb)
  | send
deriving DecidableEq

/-- A call to a board. -/
inductive BoardCall where
  | initNvs
  | eraseNvs
deriving DecidableEq

/-- A call to a pin of the chip whose input and output are enabled one by one. -/
inductive FlexCall where
  | enableOutput (on : Bool)
  | enableInput (on : Bool)
  | configureOutput
  | drive (level : Level)
deriving DecidableEq

/-- A call to the chip's own hardware. -/
inductive ChipCall where
  | flex (call : FlexCall)
  | openUart (baud : Nat)
  | uartTx (pin : Nat)
  | uartRx (pin : Nat)
  | configureStation
  | startWifi
  | disconnectWifi
  | scanWifi
  | startLog
  | startClocks (megahertz : Nat)
  | internalHeap (size : Nat)
  | externalHeap
  | startScheduler
  | softwareReset
deriving DecidableEq

/-! ## Events -/

/-- One thing that a run does to its surroundings. -/
inductive Event where
  | log (record : LogRecord)
  /-- Text that a console took. -/
  | console (text : String)
  /-- Bytes that a serial line took. -/
  | serial (bytes : List UInt8)
  | delay (call : DelayCall)
  | pin (call : PinCall) (failed : Bool)
  | radio (call : RadioCall)
  | strip (call : StripCall)
  /-- A frame of scaled pixels handed to a writer. -/
  | frame (pixels : List Rgb) (failed : Bool)
  | board (call : BoardCall)
  | chip (call : ChipCall)
  /-- The setup of a driver that only counts its calls. -/
  | countedSetup
deriving DecidableEq

/-- What a run did, in order. -/
abbrev Trace := List Event

end Metronome
