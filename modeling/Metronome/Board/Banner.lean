import Metronome.Board.Basic
import Metronome.Console.Basic

/-!
# The chip banner

One line that describes the chip, such as
`This is esp32s3 chip with 2 CPU core(s), WiFi/BLE, 8MB flash`.
-/

namespace Metronome

/-- The radios of a chip. -/
def ChipInfo.radios (chip : ChipInfo) : String :=
  match chip.wifi, chip.bluetooth with
  | true, true => "WiFi/BLE"
  | true, false => "WiFi"
  | false, true => "BLE"
  | false, false => "no radio"

/-- The pieces of the line. -/
def ChipInfo.banner (chip : ChipInfo) : List String :=
  ["This is ", chip.model, " chip with ", toString chip.cores, " CPU core(s), ", chip.radios, ", ",
   toString chip.flashMegabytes, "MB flash\n"]

/-- Writes the line. -/
def printBanner {κ : Type} [Console κ] (chip : ChipInfo) : Act κ DriverError Unit :=
  Console.print chip.banner

end Metronome
