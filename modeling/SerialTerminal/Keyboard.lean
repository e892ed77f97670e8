import SerialTerminal.Line

/-!
# Keyboard

What the user types, in chunks. A failure of the operating system is fatal for whoever reads.

This is the `ConsoleInput` of `SPEC_FULL.md` §11.
-/

namespace SerialTerminal.Keyboard

/-- A failed read as the readers of the keyboard see it. -/
def readFailure : Failure → Failure := Failure.fatalIfSystem .cannotRead

/-- Reads typed bytes (`ConsoleInput.read`). None are read at the end of the input. -/
def read (limit : Nat) : Act (Script (List UInt8)) (List UInt8) :=
  Act.mapFailure readFailure (readChunk .keyboard limit)

/-- What the readers of the keyboard see of what is typed. -/
def guarded (typed : Script (List UInt8)) : Script (List UInt8) := typed.mapFailures readFailure

end SerialTerminal.Keyboard
