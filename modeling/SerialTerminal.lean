import SerialTerminal.Powers
import SerialTerminal.Binary64
import SerialTerminal.Numeral
import SerialTerminal.Decimal
import SerialTerminal.ReceptionBuffer
import SerialTerminal.Slip.Stuffing
import SerialTerminal.Slip.FrameDecoder
import SerialTerminal.HexDump
import SerialTerminal.DecimalColumns
import SerialTerminal.Text.Blank
import SerialTerminal.Text.DecimalDigit
import SerialTerminal.Text.Printable
import SerialTerminal.Text.Quoted
import SerialTerminal.Text.UpperCase
import SerialTerminal.Text.Utf8
import SerialTerminal.Text.Lines
import SerialTerminal.Text.Latin1
import SerialTerminal.Text.FloatNumeral
import SerialTerminal.Text.IntegerNumeral
import SerialTerminal.Calendar.Civil
import SerialTerminal.Calendar.TimeFormat
import SerialTerminal.LineStamp
import SerialTerminal.Path
import SerialTerminal.FileTree
import SerialTerminal.Template.Field
import SerialTerminal.Template.Expansion
import SerialTerminal.DisplayMode
import SerialTerminal.Config.Basic
import SerialTerminal.Config.Value
import SerialTerminal.Config.Layer
import SerialTerminal.Config.Problem
import SerialTerminal.Config.Environment
import SerialTerminal.Config.File
import SerialTerminal.Failure
import SerialTerminal.Event
import SerialTerminal.Act
import SerialTerminal.Script
import SerialTerminal.Clock
import SerialTerminal.Output
import SerialTerminal.Display
import SerialTerminal.Display.Viewer
import SerialTerminal.Line
import SerialTerminal.Transmitter
import SerialTerminal.WatchSet
import SerialTerminal.Terminal
import SerialTerminal.SerialPort
import SerialTerminal.Keyboard
import SerialTerminal.Session
import SerialTerminal.Config.Load
import SerialTerminal.Journal
import SerialTerminal.CommandLine.Switch
import SerialTerminal.CommandLine.Token
import SerialTerminal.CommandLine.Options
import SerialTerminal.CommandLine.Usage
import SerialTerminal.CommandLine.Resolution
import SerialTerminal.Program
import SerialTerminal.Main
import SerialTerminal.Proofs.Slip.Segmentation
import SerialTerminal.Proofs.Slip.Reading
import SerialTerminal.Proofs.Slip.Denotation
import SerialTerminal.Proofs.Slip.FrameStream
import SerialTerminal.Proofs.Slip.Resynchronisation
import SerialTerminal.Proofs.Act
import SerialTerminal.Proofs.HexDump
import SerialTerminal.Proofs.Display.Screen
import SerialTerminal.Proofs.Display.Showing
import SerialTerminal.Proofs.Display.Batches
import SerialTerminal.Proofs.Display.Demultiplexing
import SerialTerminal.Proofs.Display.HexRows
import SerialTerminal.Proofs.Config.Validation
import SerialTerminal.Proofs.Config.Field
import SerialTerminal.Proofs.Config.Sources
import SerialTerminal.Proofs.CommandLine.Parsing
import SerialTerminal.Proofs.CommandLine.Precedence
import SerialTerminal.Proofs.Calls
import SerialTerminal.Proofs.Display.Calls
import SerialTerminal.Proofs.Sending
import SerialTerminal.Proofs.Chunks
import SerialTerminal.Proofs.Terminal.Directions
import SerialTerminal.Proofs.Charges
import SerialTerminal.Proofs.Terminal.Failures
import SerialTerminal.Proofs.Session.Outcome
import SerialTerminal.Proofs.Slip.Loopback
import SerialTerminal.Proofs.Display.FrameRecord
import SerialTerminal.Proofs.Config.FileLines
import SerialTerminal.Proofs.Preparation
import SerialTerminal.Proofs.CommandLine.DisplaySwitches
import SerialTerminal.Proofs.Display.Stamps
import SerialTerminal.Proofs.CommandLine.LastDisplay
import SerialTerminal.Proofs.Attempts
import SerialTerminal.Proofs.Terminal.KeyboardEnd
import SerialTerminal.Proofs.Opening
import SerialTerminal.Proofs.Contracts
import SerialTerminal.Proofs.Display.Representation
import SerialTerminal.Proofs.Text.Trimming
import SerialTerminal.Proofs.Text.WholeNumbers
import SerialTerminal.Proofs.Config.LineShape
import SerialTerminal.Proofs.Config.WrittenLines
import SerialTerminal.Proofs.Rounding
import SerialTerminal.Proofs.Sending.FirstFailure
import SerialTerminal.Proofs.Terminal.Isolation
import SerialTerminal.Proofs.Text.Encoding
import SerialTerminal.Proofs.Display.StampBytes
import SerialTerminal.Proofs.Display.StampedLines
import SerialTerminal.Proofs.Display.LineDiscipline
import SerialTerminal.Proofs.DecimalColumns
import SerialTerminal.Proofs.Display.Columns
import SerialTerminal.Proofs.Config.Layering
import SerialTerminal.Proofs.Display.RefusedRow
import SerialTerminal.Proofs.ExactRounding
import SerialTerminal.Proofs.Text.ExactNumerals
import SerialTerminal.Proofs.Config.Meaning
import SerialTerminal.Proofs.HexDump.Columns
import SerialTerminal.Proofs.Path
import SerialTerminal.Proofs.Results
import SerialTerminal.Proofs.FileTree
import SerialTerminal.Proofs.Journal
import SerialTerminal.Proofs.Journal.LogFiles
import SerialTerminal.Proofs.Ports
