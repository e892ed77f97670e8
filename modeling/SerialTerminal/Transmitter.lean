import SerialTerminal.DisplayMode
import SerialTerminal.Line
import SerialTerminal.Slip.Stuffing

/-!
# Transmitter

Sends typed bytes to the line, one at a time. The pause after each byte is the only flow control.
In the mode where everything belongs to frames, a delimiter goes before and after each chunk. The
bytes of the chunk are sent as they are.

This is the outbound relay of `SPEC_FULL.md` §4.2. A pause is made by a clock that the transmitter
is given, and which may be unable to measure it.
-/

namespace SerialTerminal

/-- Holds of the pauses that a clock cannot measure. -/
abbrev PauseLimit : Type := Binary64 → Bool

namespace PauseLimit

/-- A clock without limits. -/
def none : PauseLimit := fun _ => false

/-- A clock that counts nanoseconds in 64 bits, one of them for the sign. -/
def nanoseconds : PauseLimit := fun pause =>
  match (pause.scale 1000000000).truncate with
  | .ok count => bound64 ≤ count
  | .error _ => true

end PauseLimit

/-- How bytes are sent. -/
structure Transmitter where
  /-- Whether chunks are put between delimiters. -/
  framed : Bool
  /-- Seconds to pause after each byte. -/
  pause : Binary64
  /-- Whether the pause is too long to be made. -/
  tooLong : Bool
deriving DecidableEq, Repr

namespace Transmitter

/-- Microseconds as seconds. -/
def secondsOfMicroseconds (delayUs : Nat) : Binary64 := .ofRatio false delayUs 1000000

/-- The transmitter of a mode with a delay in microseconds, and a clock with a limit. -/
def create (mode : DisplayMode) (delayUs : Int) (limit : PauseLimit := .none) :
    Except Failure Transmitter :=
  if delayUs < 0 then .error .negativeDelay
  else
    match secondsOfMicroseconds delayUs.toNat with
    | .infinite _ => .error .delayTooLong
    | pause => .ok ⟨mode = .slip, pause, limit pause⟩

/-- Writes bytes. The device has to accept some. -/
def put (bytes : List UInt8) : Act LineOutput Unit := do
  match ← LineOutput.write bytes with
  | none => Act.fail (.fatal .nothingAccepted)
  | some count => if count ≤ 0 then Act.fail (.fatal .nothingAccepted) else Act.done ()

/-- Pauses, unless that takes too long. -/
def takePause (t : Transmitter) : Act LineOutput Unit := do
  Act.emit (.slept t.pause)
  if t.tooLong then Act.fail .pauseTooLong

/-- Sends a byte and pauses. -/
def sendByte (t : Transmitter) (b : UInt8) : Act LineOutput Unit := do
  put [b]
  LineOutput.flush
  if t.pause.isPositive then t.takePause

/-- Sends a chunk (`OutboundRelay.forward`). -/
def send (t : Transmitter) (data : List UInt8) : Act LineOutput Unit := do
  Act.log .debug s!"SEND {data.length} bytes"
  if t.framed then put [Slip.frameEnd]
  Act.forEach t.sendByte data
  if t.framed then
    put [Slip.frameEnd]
    LineOutput.flush

end Transmitter

end SerialTerminal
