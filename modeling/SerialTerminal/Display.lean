import SerialTerminal.DisplayMode
import SerialTerminal.HexDump
import SerialTerminal.LineStamp
import SerialTerminal.ReceptionBuffer
import SerialTerminal.Slip.FrameDecoder

/-!
# Display

What a terminal remembers between two received bytes in order to show the next one. Each way of
showing bytes has a state of its own, so a display holds a row of hexadecimal digits only where it
shows rows, and a frame decoder only where it looks for frames.

This is the state of the inbound decoder of `SPEC_FULL.md` §4.3, with the buffer, the escape and the
flag of §3.
-/

namespace SerialTerminal

/-- What becomes of SLIP frames and of the text between them. -/
inductive FramePolicy where
  /-- Frames and text are both shown. -/
  | automatic
  /-- Everything belongs to frames. -/
  | exclusive
  /-- Only text is shown. -/
  | hidden
deriving DecidableEq, Repr

/-- A way of showing bytes, with what it remembers. -/
inductive View where
  /-- Bytes as they come. The flag tells two modes apart that behave alike. -/
  | text (initial : Bool)
  /-- Bytes with a stamp in front of each line. -/
  | dated (atLineStart : Bool)
  /-- Decimal columns, and how many stand in the line. -/
  | decimal (column : Nat)
  /-- Rows of hexadecimal digits, and the row in progress. -/
  | hex (row : ReceptionBuffer)
  /-- SLIP frames, and the frame in progress. -/
  | slip (policy : FramePolicy) (frames : Slip.FrameDecoder)
deriving DecidableEq, Repr

namespace View

/-- A fresh view for a mode. -/
def ofMode : DisplayMode → View
  | .startText => .text true
  | .text => .text false
  | .startDate => .dated true
  | .date => .dated false
  | .int => .decimal 0
  | .hex => .hex (.empty HexDump.rowWidth)
  | .slipAuto => .slip .automatic (.initial Slip.FrameDecoder.defaultCapacity)
  | .slip => .slip .exclusive (.initial Slip.FrameDecoder.defaultCapacity)
  | .slipHide => .slip .hidden (.initial Slip.FrameDecoder.defaultCapacity)

/-- The mode that a view is in. -/
def mode : View → DisplayMode
  | .text true => .startText
  | .text false => .text
  | .dated true => .startDate
  | .dated false => .date
  | .decimal _ => .int
  | .hex _ => .hex
  | .slip .automatic _ => .slipAuto
  | .slip .exclusive _ => .slip
  | .slip .hidden _ => .slipHide

/-- The number of decimal columns in the line. -/
def column : View → Nat
  | .decimal column => column
  | _ => 0

/-- The row of hexadecimal digits in progress. -/
def row? : View → Option ReceptionBuffer
  | .hex row => some row
  | _ => none

/-- The frame decoder. -/
def frames? : View → Option Slip.FrameDecoder
  | .slip _ frames => some frames
  | _ => none

/-- A fresh view is in the mode that it was made for. -/
@[simp] theorem mode_ofMode (mode : DisplayMode) : (ofMode mode).mode = mode := by
  cases mode <;> rfl

end View

/-- A view, and what the stamps in front of lines show. -/
structure Display where
  view : View
  stamp : LineStamp

namespace Display

/-- What stamps show: a time format comes before the time since the start, and both before the time
since 1970. -/
def stampFor (timeFormat : Option String) (startTime : Bool) (start : Binary64)
    (zone : Calendar.Zone) : LineStamp :=
  match timeFormat with
  | some format => .formatted format zone
  | none => if startTime then .sinceStart start else .sinceEpoch

/-- A fresh display that was started at a clock reading in a zone (`InboundDecoder`). -/
def create (mode : DisplayMode) (timeFormat : Option String) (startTime : Bool)
    (start : Binary64) (zone : Calendar.Zone) : Display :=
  ⟨.ofMode mode, stampFor timeFormat startTime start zone⟩

end Display

end SerialTerminal
