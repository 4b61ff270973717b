import Metronome.Pin.Basic

/-!
# Flexible pins of the chip

The chip enables the input and the output of a pin one by one. `FlexLed` puts an LED pin on top of
such a pin, whichever one it is: it keeps the direction itself and switches the enables so that
input and output are never on together.
-/

namespace Metronome

/-- A pin of the chip: calls change it, and reads look at its output latch. -/
class FlexPort (φ : Type) where
  /-- What a call makes of the pin. -/
  after : φ → FlexCall → φ
  /-- Whether a read finds the latch high. -/
  isSetHigh : φ → Bool
  /-- Whether a read finds the latch low. -/
  isSetLow : φ → Bool

/-- The enables of a pin and its latch. -/
structure FlexPin where
  /-- Whether the output is on. -/
  outputEnabled : Bool
  /-- Whether the input is on. -/
  inputEnabled : Bool
  /-- The output latch. -/
  latch : Level
deriving DecidableEq

/-- A pin that has nothing but its enables and its latch. -/
instance : FlexPort FlexPin where
  after pin
    | .enableOutput on => { pin with outputEnabled := on }
    | .enableInput on => { pin with inputEnabled := on }
    | .configureOutput => pin
    | .drive level => { pin with latch := level }
  isSetHigh pin := pin.latch.isHigh
  isSetLow pin := !pin.latch.isHigh

/-- An LED on a pin of the chip. -/
structure FlexLed (φ : Type := FlexPin) where
  /-- The pin. -/
  pin : φ
  /-- The direction that the enables stand for. -/
  direction : Direction
deriving DecidableEq

namespace FlexLed

variable {φ : Type} [FlexPort φ] {ε : Type}

/-- The calls that switch a pin to a direction. -/
def switchCalls : Direction → List FlexCall
  | .input => [.enableOutput false, .enableInput true]
  | .output => [.configureOutput, .enableInput false, .enableOutput true]

/-- Makes a call to the pin. -/
def call (c : FlexCall) : Act (FlexLed φ) ε Unit := do
  Act.emit (.chip (.flex c))
  Act.modify fun led => { led with pin := FlexPort.after led.pin c }

/-- Makes some calls to the pin in order. -/
def callAll : List FlexCall → Act (FlexLed φ) ε Unit
  | [] => pure ()
  | c :: cs => do call c; callAll cs

/-- Switches the enables and then takes the direction. -/
def setDirection (direction : Direction) : Act (FlexLed φ) Fault Unit := do
  callAll (switchCalls direction)
  Act.modify fun led => { led with direction }

instance : LedPin (FlexLed φ) where
  write level := call (.drive level)
  isSetHigh := do return FlexPort.isSetHigh (← Act.get).pin
  isSetLow := do return FlexPort.isSetLow (← Act.get).pin
  setDirection
  direction led := led.direction

/-- Wraps a pin: it is switched to an input and stays one until the setup of a driver. -/
def create (pin : φ) : Effect (FlexLed φ) Empty Unit :=
  callAll (switchCalls .input) 0 { pin, direction := .input }

end FlexLed

end Metronome
