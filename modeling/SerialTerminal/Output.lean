import SerialTerminal.Script

/-!
# Output

The sink that shows received bytes to the user. It may refuse a write or a flush; a refused one
leaves no trace.

This is the sink of `SPEC_FULL.md` §6.
-/

namespace SerialTerminal

/-- The answers of the sink. -/
structure Output where
  writes : Script Unit
  flushes : Script Unit

namespace Output

/-- A sink that never refuses. -/
def willing : Output := ⟨[], []⟩

/-- Shows bytes. -/
def write (bytes : List UInt8) : Act Output Unit := do
  Act.on writes (fun writes o => { o with writes := writes }) (Script.next ())
  Act.emit (.shown bytes)

/-- Makes the sink pass on what it holds. -/
def flush : Act Output Unit := do
  Act.on flushes (fun flushes o => { o with flushes := flushes }) (Script.next ())
  Act.emit .shownFlushed

end Output

end SerialTerminal
