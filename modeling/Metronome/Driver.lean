import Metronome.Act

/-!
# Drivers

A driver owns its peripherals and advances them one unit of work at a time. Pacing is not its
business: the runner sleeps for one cadence after every step that goes on.
-/

namespace Metronome

/-- What follows a successful step. -/
inductive Step where
  /-- Sleep for one cadence and step again. -/
  | next
  /-- Reset the device now. -/
  | restart
deriving DecidableEq

/-- A device that is set up once and then stepped at a cadence. -/
class Driver (δ : Type) where
  /-- The short name in log records. -/
  name : δ → String
  /-- The time between two steps. -/
  cadence : δ → Cadence
  /-- Brings the peripherals up. -/
  setUp : Act δ DriverError Unit
  /-- Does one unit of work. -/
  step : Act δ DriverError Step

end Metronome
