import SerialTerminal.Binary64

/-!
# Events

What a session does to the world, as far as it can be observed: calls to the line, the keyboard, the
screen, the wait set and the clock's sleep, and records handed to the journal.

The collaborators are those of `SPEC_FULL.md` §6 and §11.
-/

namespace SerialTerminal

/-- Severity of a journal record. -/
inductive Severity where
  | error
  | warning
  | info
  | debug
deriving DecidableEq, Repr

/-- Names of the severities in a journal. -/
def Severity.name : Severity → String
  | .error => "ERROR"
  | .warning => "WARNING"
  | .info => "INFO"
  | .debug => "DEBUG"

/-- What a session waits for. -/
inductive Handle where
  | keyboard
  | line
  | other (name : String)
deriving DecidableEq, Repr

/-- Name of a handle. -/
def Handle.name : Handle → String
  | .keyboard => "keyboard"
  | .line => "serial"
  | .other name => name

/-- The handle of a name. -/
def Handle.ofName (name : String) : Handle :=
  if name = "keyboard" then .keyboard else if name = "serial" then .line else .other name

/-- One observable step. -/
inductive Event where
  | record (severity : Severity) (text : String)
  | opened (port : String) (baudrate : Int)
  | closed
  | read (source : Handle) (limit : Nat)
  | written (bytes : List UInt8)
  | flushed
  | slept (seconds : Binary64)
  | shown (bytes : List UInt8)
  | shownFlushed
  | watched (handle : Handle)
  | unwatched (handle : Handle)
  | waitClosed
deriving DecidableEq, Repr

end SerialTerminal
