import SerialTerminal.ReceptionBuffer
import SerialTerminal.Slip.Stuffing

/-!
# SLIP frame decoder

A machine that takes one byte at a time. It keeps a bounded buffer for the frame in progress, one
bit for a pending escape and a flag that tells a frame from the text between frames.

* An escape is remembered and not buffered.
* A delimiter after buffered bytes completes the frame: its payload is handed over, unless bytes of
  it were lost, and the machine starts anew.
* A delimiter on an empty buffer opens a closed frame and closes any other. It leaves a pending
  escape alone.
* Any other byte is unescaped and buffered. On a full buffer it is lost together with what was
  buffered, which is reported and marks the frame.

This is the SLIP frame decoder of `SPEC_FULL.md` §4.4b. The flag and the pending escape are those
of §3.
-/

namespace SerialTerminal.Slip

/-- Where the stream stands with respect to frame boundaries. -/
inductive FrameFlag where
  | closed
  | opened
  | overflowed
deriving DecidableEq, Repr

/-- State of the decoder between two bytes. -/
structure FrameDecoder where
  buffer : ReceptionBuffer
  pendingEscape : Bool
  flag : FrameFlag
deriving DecidableEq, Repr

/-- What the decoder does about one byte, seen from outside. -/
inductive Reaction where
  | silent
  | payload (bytes : List UInt8)
  | overflow
deriving DecidableEq, Repr

namespace FrameDecoder

/-- What the journal is told when bytes of a frame are lost. -/
def overflowNotice : String := "**** slip overflow"

/-- Capacity of the buffer in a terminal. -/
def defaultCapacity : Nat := 2048

/-- The decoder before any byte. -/
def initial (capacity : Nat) : FrameDecoder := ⟨.empty capacity, false, .closed⟩

/-- The initial decoder for a positive capacity. -/
def create (capacity : Int) : Except ReceptionBuffer.Error FrameDecoder :=
  (ReceptionBuffer.create capacity).map fun buffer => ⟨buffer, false, .closed⟩

/-- Holds inside a frame. -/
def frameOpen (d : FrameDecoder) : Bool := d.flag ≠ .closed

/-- The effect of a delimiter: rule 2 of `SPEC_FULL.md` §4.4b. -/
def onEnd (d : FrameDecoder) : FrameDecoder × Reaction :=
  if d.buffer.isEmpty then
    ({ d with flag := if d.flag = .closed then .opened else .closed }, .silent)
  else
    (⟨d.buffer.clear, false, .closed⟩,
      if d.flag = .overflowed then .silent else .payload d.buffer.toList)

/-- The effect of a byte that found the buffer full. -/
def onOverflow (d : FrameDecoder) : FrameDecoder × Reaction :=
  (⟨d.buffer.clear, false, .overflowed⟩, .overflow)

/-- The effect of a byte that is neither a delimiter nor an escape. -/
def onData (d : FrameDecoder) (b : UInt8) : FrameDecoder × Reaction :=
  if d.buffer.isFull then d.onOverflow
  else
    (⟨d.buffer.push (if d.pendingEscape then unescape b else b), false, d.flag⟩, .silent)

/-- Takes one byte, by the rules of `SPEC_FULL.md` §4.4b (`SlipFrameDecoder.feed`). -/
def feed (d : FrameDecoder) (b : UInt8) : FrameDecoder × Reaction :=
  if b = escape then ({ d with pendingEscape := true }, .silent)
  else if b = frameEnd then d.onEnd
  else d.onData b

/-- Takes a number where a byte is due. A number that is no byte is treated as data until it would
have to be buffered; the refusal leaves no escape pending. -/
def feedNumber (d : FrameDecoder) (value : Int) :
    FrameDecoder × Except ReceptionBuffer.Error Reaction :=
  if 0 ≤ value ∧ value < 256 then
    let (next, reaction) := d.feed (UInt8.ofNat value.toNat)
    (next, .ok reaction)
  else if d.buffer.isFull then
    let (next, reaction) := d.onOverflow
    (next, .ok reaction)
  else ({ d with pendingEscape := false }, .error .notAByte)

/-- Takes a sequence of bytes and lists the reactions to each. -/
def feedAll (d : FrameDecoder) : List UInt8 → FrameDecoder × List Reaction
  | [] => (d, [])
  | b :: rest =>
    let (next, reaction) := d.feed b
    let (last, reactions) := next.feedAll rest
    (last, reaction :: reactions)

@[simp] theorem feedAll_nil (d : FrameDecoder) : d.feedAll [] = (d, []) := rfl

@[simp] theorem feedAll_cons (d : FrameDecoder) (b : UInt8) (rest : List UInt8) :
    d.feedAll (b :: rest) =
      (((d.feed b).1.feedAll rest).1, (d.feed b).2 :: ((d.feed b).1.feedAll rest).2) := rfl

/-- A stream may be cut anywhere. -/
theorem feedAll_append (d : FrameDecoder) (xs ys : List UInt8) :
    d.feedAll (xs ++ ys) =
      (((d.feedAll xs).1.feedAll ys).1, (d.feedAll xs).2 ++ ((d.feedAll xs).1.feedAll ys).2) := by
  induction xs generalizing d with
  | nil => simp
  | cons b rest ih => simp [ih]

end FrameDecoder

end SerialTerminal.Slip
