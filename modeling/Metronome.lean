import Metronome.Board.Chip
import Metronome.Board.Scripted
import Metronome.Console.Serial
import Metronome.Demo.Scripted
import Metronome.Main
import Metronome.Pin.Bench
import Metronome.Pin.Flex
import Metronome.Proofs.Blink.Faults
import Metronome.Proofs.Blink.SquareWave
import Metronome.Proofs.Board.Erasing
import Metronome.Proofs.Cadence.Constructors
import Metronome.Proofs.Console.Budget
import Metronome.Proofs.Console.Stopping
import Metronome.Proofs.Console.Streams
import Metronome.Proofs.HelloWorld.Countdown
import Metronome.Proofs.Occasions
import Metronome.Proofs.Pacing
import Metronome.Proofs.Pin.Agreement
import Metronome.Proofs.Pin.Flex
import Metronome.Proofs.Pin.Plain
import Metronome.Proofs.Pin.Uses
import Metronome.Proofs.Radio.Names
import Metronome.Proofs.Radio.Strongest
import Metronome.Proofs.RgbCycle.Colours
import Metronome.Proofs.Runner.Accounting
import Metronome.Proofs.Runner.Departing
import Metronome.Proofs.Runner.History
import Metronome.Proofs.Runner.Rounds
import Metronome.Proofs.Runner.SetUpOrder
import Metronome.Proofs.Runner.Splitting
import Metronome.Proofs.Safe
import Metronome.Proofs.Scan.Forging
import Metronome.Proofs.Scan.Observing
import Metronome.Proofs.Scan.Publishing
import Metronome.Proofs.Scan.ReportLines
import Metronome.Proofs.Scan.Reporting
import Metronome.Proofs.Scan.Steps
import Metronome.Proofs.Settings.Exporting
import Metronome.Proofs.Settings.Numbers
import Metronome.Proofs.Simulator.Demos
import Metronome.Proofs.Simulator.Playing
import Metronome.Proofs.Simulator.Printing
import Metronome.Proofs.Strip.Frames
import Metronome.Proofs.Text.Decimal
import Metronome.Proofs.Text.Lines
import Metronome.Radio.Controller
import Metronome.Radio.Scripted
import Metronome.Runner.Session
import Metronome.Settings.Export
import Metronome.Settings.Number
import Metronome.Simulator.Run
import Metronome.Proofs.Cadence.Display
import Metronome.Proofs.Board.LowWater
import Metronome.Proofs.Pin.Waveform
