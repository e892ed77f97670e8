import SerialTerminal.Script

/-!
# Serial line

The answers of the device at the end of the line: what it receives, how much it accepts of what is
written, and how its flushes, openings and closings go.

The device is that of `SPEC_FULL.md` §6.
-/

namespace SerialTerminal

/-- What the device says about a write. -/
inductive Acceptance where
  /-- All bytes were taken. -/
  | everything
  /-- A count, which need not be true. -/
  | count (n : Int)
  /-- No count at all. -/
  | nothing
deriving DecidableEq, Repr

/-- The count that is reported for a write of a number of bytes. -/
def Acceptance.reported (size : Nat) : Acceptance → Option Int
  | .everything => some size
  | .count n => some n
  | .nothing => none

/-- The sending half of a line. -/
structure LineOutput where
  acceptances : Script Acceptance
  flushes : Script Unit

namespace LineOutput

/-- Writes bytes and gives the count that the device reports. -/
def write (bytes : List UInt8) : Act LineOutput (Option Int) := do
  Act.emit (.written bytes)
  let acceptance ← Act.on acceptances (fun replies l => { l with acceptances := replies })
    (Script.next .everything)
  return acceptance.reported bytes.length

/-- Waits until what was written has left. -/
def flush : Act LineOutput Unit := do
  Act.emit .flushed
  Act.on flushes (fun replies l => { l with flushes := replies }) (Script.next ())

end LineOutput

/-- Reads at most `limit` bytes that a source holds. -/
def readChunk (source : Handle) (limit : Nat) : Act (Script (List UInt8)) (List UInt8) := do
  Act.emit (.read source limit)
  Script.nextChunk limit

/-- A serial line. -/
structure Line where
  incoming : Script (List UInt8)
  output : LineOutput
  openings : Script Unit
  closings : Script Unit

end SerialTerminal
