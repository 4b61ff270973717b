import Metronome.Trace
import Metronome.Failure

/-!
# System control

The two ways in which a program leaves its endless loop: it resets the device or halts it. Neither
comes back; what happens instead is the hook's fate.
-/

namespace Metronome

/-- The two ways out of the endless loop. -/
inductive Hook where
  | restart
  | halt
deriving DecidableEq

/-- The name of a hook. -/
def Hook.name : Hook → String
  | .restart => "restart"
  | .halt => "halt"

/-- What calling a hook comes to. -/
inductive Fate where
  /-- The call is noted and the run is over. -/
  | noted (hook : Hook)
  /-- The program is aborted. -/
  | aborted (abort : Abort)
  /-- The process ends with a code. -/
  | exited (code : Nat)
  /-- The chip is reset. -/
  | reset
  /-- The processor is busy for ever. -/
  | spinning
deriving DecidableEq

/-- What a hook does and comes to. -/
structure HookCall where
  /-- What it does to its surroundings. -/
  trace : Trace := []
  /-- What it comes to. -/
  fate : Fate
deriving DecidableEq

/-- The hooks of a platform. A platform that only knows how to reset halts by keeping the processor
busy. -/
structure SystemControl where
  /-- The name of the handle. -/
  name : String
  /-- Resets the device. -/
  restart : HookCall
  /-- Stops doing anything useful. -/
  halt : HookCall := { fate := .spinning }
deriving DecidableEq

namespace SystemControl

/-- What the given hook does. -/
def call (system : SystemControl) : Hook → HookCall
  | .restart => system.restart
  | .halt => system.halt

/-- A platform that only notes which hook was called. -/
def noting (name : String) : SystemControl where
  name
  restart := { fate := .noted .restart }
  halt := { fate := .noted .halt }

/-- A platform whose hooks abort the program. -/
def aborting (name : String) : SystemControl where
  name
  restart := { fate := .aborted ⟨"restart requested"⟩ }
  halt := { fate := .aborted ⟨"halt requested"⟩ }

/-- The chip: it can only be reset. -/
def chipReset : SystemControl where
  name := "EspReset"
  restart := { trace := [.chip .softwareReset], fate := .reset }

/-- A process on a desktop: there is no chip to reset, so both hooks end the process. -/
def process : SystemControl where
  name := "sim"
  restart :=
    { trace := [.log { severity := .info, source := .simulatedPeripherals,
                       text := "Device restart requested, exiting simulator" }]
      fate := .exited 0 }
  halt :=
    { trace := [.log { severity := .info, source := .simulatedPeripherals,
                       text := "Device halted, exiting simulator" }]
      fate := .exited 1 }

end SystemControl

end Metronome
