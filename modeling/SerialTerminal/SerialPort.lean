import SerialTerminal.Line

/-!
# Serial port

A line that can be opened and closed. While it is open, failures of the operating system are fatal
for whoever uses it.

This is the `SerialBackend` of `SPEC_FULL.md` §11. The device behind it is a script.
-/

namespace SerialTerminal

/-- A port with the name under which it was last opened. -/
structure SerialPort where
  line : Line
  isOpen : Bool
  name : Option String

namespace SerialPort

/-- The port of a line before it is opened. -/
def ofLine (line : Line) : SerialPort := ⟨line, false, none⟩

/-- A failed read as the users of the port see it. -/
def readFailure : Failure → Failure := Failure.fatalIfSystem .cannotRead

/-- A failed write as the users of the port see it. -/
def writeFailure : Failure → Failure := Failure.fatalIfSystem .cannotWrite

/-- A failed flush as the users of the port see it. -/
def flushFailure : Failure → Failure := Failure.fatalIfSystem .cannotFlush

/-- Refuses to go on with a port that is not open. -/
def requireOpen : Act SerialPort Unit := do
  if ← Act.gets isOpen then Act.done () else Act.fail (.fatal .portNotOpen)

/-- Opens the port (`SerialBackend.open`). An open port stays as it is. -/
def «open» (name : String) (baudrate : Int) : Act SerialPort Unit := do
  if ← Act.gets isOpen then Act.done ()
  else
    Act.emit (.opened name baudrate)
    Act.mapFailure (Failure.fatalIfSystemOrValue (.cannotOpen name))
      (Act.on (fun p => p.line.openings) (fun replies p => { p with line.openings := replies })
        (Script.next ()))
    Act.modify fun p => { p with isOpen := true, name := some name }

/-- Reads bytes that the line holds. -/
def read (limit : Nat) : Act SerialPort (List UInt8) := do
  requireOpen
  Act.mapFailure readFailure
    (Act.on (fun p => p.line.incoming) (fun replies p => { p with line.incoming := replies })
      (readChunk .line limit))

/-- Writes bytes and gives the number that the device accepted. -/
def write (bytes : List UInt8) : Act SerialPort Int := do
  requireOpen
  let count ← Act.mapFailure writeFailure
    (Act.on (fun p => p.line.output) (fun output p => { p with line.output := output })
      (LineOutput.write bytes))
  return count.getD 0

/-- Waits until what was written has left. -/
def flush : Act SerialPort Unit := do
  requireOpen
  Act.mapFailure flushFailure
    (Act.on (fun p => p.line.output) (fun output p => { p with line.output := output })
      LineOutput.flush)

/-- Closes the port (`SerialBackend.close`). A failure of the operating system is only noted. -/
def close : Act SerialPort Unit := do
  if ← Act.gets isOpen then
    Act.emit .closed
    let reply ← Act.attempt
      (Act.on (fun p => p.line.closings) (fun replies p => { p with line.closings := replies })
        (Script.next ()))
    let name := (← Act.gets name).getD ""
    Act.modify fun p => { p with isOpen := false }
    match reply with
    | .ok () => Act.done ()
    | .error e =>
      if e.isSystem then Act.log .warning s!"Closing {name} failed: {e.message}"
      else Act.fail e

/-- The receiving half of an open port. -/
def incoming (port : SerialPort) : Script (List UInt8) :=
  port.line.incoming.mapFailures readFailure

/-- A count as an open port reports it: zero where the device reports none. -/
def countOf : Acceptance → Acceptance
  | .nothing => .count 0
  | other => other

/-- The sending half of an open port. -/
def output (port : SerialPort) : LineOutput where
  acceptances := (port.line.output.acceptances.mapFailures writeFailure).map (·.map countOf)
  flushes := port.line.output.flushes.mapFailures flushFailure

end SerialPort

end SerialTerminal
