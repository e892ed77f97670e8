import SerialTerminal.Clock
import SerialTerminal.DecimalColumns
import SerialTerminal.Display
import SerialTerminal.Output
import SerialTerminal.Text.Latin1

/-!
# Viewer

A display at work, with the clock that it reads and the output that it writes to. Bytes are taken
one at a time. A write may fail between two steps; the display then keeps the state of the steps
before it, and the rest of the batch is dropped.

This is the inbound decoder of `SPEC_FULL.md` §4.3. Each way of showing a byte is one of its
handlers.
-/

namespace SerialTerminal

/-- A display with its clock and its output. -/
structure Viewer where
  display : Display
  clock : Clock
  output : Output

namespace Viewer

/-- A viewer whose display starts now. The clock is read once. -/
def start (mode : DisplayMode) (timeFormat : Option String) (startTime : Bool) (clock : Clock)
    (output : Output) : Viewer :=
  ⟨.create mode timeFormat startTime clock.reading clock.zone, clock.advance, output⟩

/-- Changes the view. -/
def setView (view : View) : Act Viewer Unit :=
  Act.modify fun v => { v with display := { v.display with view := view } }

/-- Writes bytes. -/
def write (bytes : List UInt8) : Act Viewer Unit :=
  Act.on output (fun output v => { v with output := output }) (Output.write bytes)

/-- Makes the output pass on what it holds. -/
def flush : Act Viewer Unit :=
  Act.on output (fun output v => { v with output := output }) Output.flush

/-- Writes characters, one byte each. -/
def writeText (text : List Char) : Act Viewer Unit :=
  match Text.latin1? text with
  | some bytes => write bytes
  | none => Act.fail .notLatin1

/-- Writes a row of hexadecimal digits over the current line. -/
def writeRow (row : ReceptionBuffer) (lineEnd : List Char) : Act Viewer Unit :=
  match HexDump.row [] row.toList with
  | .ok text => writeText ('\r' :: text ++ lineEnd)
  | .error cause => Act.fail (.row cause)

/-- Reads the clock and writes the stamp of a line. -/
def writeStamp : Act Viewer Unit := do
  let now ← Act.on clock (fun clock v => { v with clock := clock }) Clock.now
  let stamp ← Act.gets (·.display.stamp)
  match stamp.text now with
  | .ok text => write (String.ofList text).toUTF8.toList
  | .error cause => Act.fail (.stamp cause)

/-- Shows a byte of a line whose stamp is written. A line feed ends the line. -/
def receiveDated (b : UInt8) : Act Viewer Unit := do
  write [b]
  if b = 10 then setView (.dated true)

/-- Shows a byte as a decimal column. The line ends after its last column. -/
def receiveDecimal (column : Nat) (b : UInt8) : Act Viewer Unit := do
  writeText (DecimalColumns.cell b.toNat)
  if column + 1 < DecimalColumns.lineWidth then setView (.decimal (column + 1))
  else
    setView (.decimal 0)
    writeText ['\n']

/-- Adds a byte to the row in progress. A full row is written and a new one begun. -/
def receiveHex (row : ReceptionBuffer) (b : UInt8) : Act Viewer Unit :=
  match row.append b with
  | .error cause => Act.fail (.buffer cause)
  | .ok longer => do
    setView (.hex longer)
    if longer.isFull then
      writeRow longer ['\n']
      setView (.hex longer.clear)

/-- The label of a frame's first row. -/
def frameLabel : List Char := ['S', 'L', 'I', 'P', ':']

/-- Writes the rows of a completed frame. -/
def writeFrame (payload : List UInt8) : Act Viewer Unit :=
  Act.forEach (fun row => writeText ('\r' :: row ++ ['\n'])) (HexDump.rows frameLabel payload)

/-- Hands a byte to the frame decoder and shows what comes of it. -/
def receiveFramed (policy : FramePolicy) (frames : Slip.FrameDecoder) (b : UInt8) :
    Act Viewer Unit := do
  let (next, reaction) := frames.feed b
  setView (.slip policy next)
  match reaction with
  | .silent => Act.done ()
  | .overflow => Act.log .warning Slip.FrameDecoder.overflowNotice
  | .payload bytes => if policy = .hidden then Act.done () else writeFrame bytes

/-- Shows a byte in a view, by the handlers of `SPEC_FULL.md` §4.3. Between frames, what is no
delimiter is text, unless everything belongs to frames. -/
def receiveIn (view : View) (b : UInt8) : Act Viewer Unit :=
  match view with
  | .text _ => write [b]
  | .dated true => do
    writeStamp
    setView (.dated false)
    receiveDated b
  | .dated false => receiveDated b
  | .decimal column => receiveDecimal column b
  | .hex row => receiveHex row b
  | .slip policy frames =>
    if policy ≠ .exclusive ∧ !frames.frameOpen ∧ b ≠ Slip.frameEnd then write [b]
    else receiveFramed policy frames b

/-- Shows a byte. -/
def receive (b : UInt8) : Act Viewer Unit := do
  let view ← Act.gets (·.display.view)
  receiveIn view b

/-- Writes the row in progress, so that the bytes of an idle line are seen. -/
def redraw : Act Viewer Unit := do
  match ← Act.gets (·.display.view) with
  | .hex row => if row.isEmpty then Act.done () else writeRow row []
  | _ => Act.done ()

/-- Shows a batch of received bytes (`InboundDecoder.feed`). -/
def feed (data : List UInt8) : Act Viewer Unit := do
  Act.forEach receive data
  redraw

end Viewer

end SerialTerminal
