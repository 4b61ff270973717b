/-!
# Failures

What can go wrong below a driver, and the one error type that drivers report. None of these is
recovered from by the program: the runner logs them and resets or halts the device.
-/

namespace Metronome

/-- An error that a driver reports. -/
inductive DriverError where
  /-- A peripheral refused an operation. -/
  | peripheral (device operation : String)
  /-- The console did not take all of a text. -/
  | console
  /-- An interval that is zero or does not fit. -/
  | invalidCadence
  /-- A configuration value that cannot be read. -/
  | config (key : String)
deriving DecidableEq

/-- The text of a driver's error. -/
def DriverError.message : DriverError → String
  | .peripheral device operation => s!"{device} failed to {operation}"
  | .console => "console write failed"
  | .invalidCadence => "cadence must be non-zero and representable in microseconds"
  | .config key => s!"invalid configuration value for {key}"

/-- The error of a device below a driver, known by the name that log records print. -/
structure Fault where
  /-- The printed name. -/
  name : String
deriving DecidableEq

/-- The refusal of a console, which carries no cause. -/
inductive WriteFault where
  /-- Some of the text was not taken. -/
  | refused
deriving DecidableEq

/-- The end of the whole program with a message. -/
structure Abort where
  /-- The printed message. -/
  message : String
deriving DecidableEq

end Metronome
