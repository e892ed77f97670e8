import SerialTerminal.Config.Problem
import SerialTerminal.FileTree
import SerialTerminal.HexDump
import SerialTerminal.LineStamp
import SerialTerminal.ReceptionBuffer
import SerialTerminal.Template.Field
import SerialTerminal.Text.Utf8

/-!
# Failures

What can go wrong while a session is set up and while bytes are moved. Collaborators (the line, the
keyboard, the screen, the wait) raise failures of their own, which carry a kind and a text. The
terminal adds its own causes.

Some parts of the terminal treat kinds alike: `FailureKind.isSystem` holds of the failures of the
operating system, `FailureKind.isValue` of refused values.

The causes that the terminal adds are those of `FatalIOError` (`SPEC_FULL.md` §7 (b), §14).
-/

namespace SerialTerminal

/-- The kinds of failure that a caller can tell apart. -/
inductive FailureKind where
  | system
  | serial
  | interruptedCall
  | brokenPipe
  | permission
  | fileExists
  | notDirectory
  | isDirectory
  | fileNotFound
  | value
  | decoding
  | overflow
  | type
  | memory
  | runtime
  | keyboardInterrupt
  | configuration
  | fatal
  | validation
deriving DecidableEq, Repr

/-- Holds of the failures of the operating system. -/
def FailureKind.isSystem : FailureKind → Bool
  | .system | .serial | .interruptedCall | .brokenPipe | .permission | .fileExists
  | .notDirectory | .isDirectory | .fileNotFound => true
  | _ => false

/-- Holds of the refusals of a value. -/
def FailureKind.isValue : FailureKind → Bool
  | .value | .decoding => true
  | _ => false

/-- Why a session cannot go on. -/
inductive FatalCause where
  | cannotWait (reason : String)
  | cannotShow (reason : String)
  | cannotRead (reason : String)
  | cannotWrite (reason : String)
  | cannotFlush (reason : String)
  | cannotOpen (port reason : String)
  | cannotWatch (handle reason : String)
  | nothingAccepted
  | portNotOpen
deriving DecidableEq, Repr

/-- The wording of a fatal cause. -/
def FatalCause.message : FatalCause → String
  | .cannotWait reason => s!"select: {reason}"
  | .cannotShow reason => s!"could not write output: {reason}"
  | .cannotRead reason => s!"could not read: {reason}"
  | .cannotWrite reason => s!"write: {reason}"
  | .cannotFlush reason => s!"flush: {reason}"
  | .cannotOpen port reason => s!"{port}: {reason}"
  | .cannotWatch handle reason => s!"cannot watch {handle}: {reason}"
  | .nothingAccepted => "write: serial device accepted no data"
  | .portNotOpen => "serial port is not open"

/-- A failure: one that a collaborator raised, or one of the terminal's own. -/
inductive Failure where
  | raised (kind : FailureKind) (text : String)
  | fatal (cause : FatalCause)
  | buffer (cause : ReceptionBuffer.Error)
  | row (cause : HexDump.RowOverflow)
  | notLatin1
  | stamp (cause : StampError)
  | negativeDelay
  | delayTooLong
  /-- The clock cannot measure a pause. -/
  | pauseTooLong
  | misconfigured (cause : Config.Problem)
  | file (cause : FileFailure)
  /-- Log files cannot be made in the directory. -/
  | unwritable (directory : String)
  | undecodable (cause : Utf8.Error)
  | number (cause : Binary64.IntegerError)
  | template (cause : Template.Error)
  /-- The value of the delay option was dropped. -/
  | delayWithoutValue
  /-- The value of the option for the configuration file was dropped. -/
  | pathWithoutValue
deriving DecidableEq, Repr

namespace Failure

/-- The kind of a buffer error. -/
def bufferKind : ReceptionBuffer.Error → FailureKind
  | .full _ => .overflow
  | _ => .value

/-- The kind of an integer conversion that failed. -/
def integerKind : Binary64.IntegerError → FailureKind
  | .notANumber => .value
  | .infinite => .overflow

/-- The kind of a stamp that cannot be written. -/
def stampKind : StampError → FailureKind
  | .number cause => integerKind cause
  | .range .notANumber => .value
  | .range .beyondSeconds => .overflow
  | .range .beyondYears => .system
  | .yearBeyondFormat => .overflow
  | .nulInFormat => .value

/-- The kind of an error of the file system. -/
def fileKind : FileError → FailureKind
  | .missing => .fileNotFound
  | .denied => .permission
  | .exists => .fileExists
  | .notDirectory => .notDirectory
  | .isDirectory => .isDirectory
  | .nameTooLong => .system
  | .nul => .value

/-- The kind of a template that cannot be written. -/
def templateKind : Template.Error → FailureKind
  | .noSuchCharacter | .integerTooLarge | .starWidthTooLarge | .starPrecisionTooLarge
  | .tooManyDigits => .overflow
  | .noInteger cause => integerKind cause
  | .incomplete | .unknownLetter _ _ | .widthTooBig | .precisionTooBig => .value
  | .outOfMemory => .memory
  | _ => .type

/-- The kind of a failure. -/
def kind : Failure → FailureKind
  | .raised kind _ => kind
  | .fatal _ => .fatal
  | .buffer cause => bufferKind cause
  | .row _ => .value
  | .notLatin1 => .value
  | .stamp cause => stampKind cause
  | .negativeDelay => .value
  | .delayTooLong => .overflow
  | .pauseTooLong => .overflow
  | .misconfigured _ => .configuration
  | .file cause => fileKind cause.error
  | .unwritable _ => .permission
  | .undecodable _ => .decoding
  | .number cause => integerKind cause
  | .template cause => templateKind cause
  | .delayWithoutValue => .type
  | .pathWithoutValue => .type

/-- The wording of a failure. -/
def message : Failure → String
  | .raised _ text => text
  | .fatal cause => cause.message
  | .buffer cause => cause.message
  | .row cause => cause.message
  | .notLatin1 => "ordinal not in range(256)"
  | .stamp cause => cause.message
  | .negativeDelay => "Delay must not be negative"
  | .delayTooLong => "integer division result too large for a float"
  | .pauseTooLong => "timestamp too large to convert to C _PyTime_t"
  | .misconfigured cause => cause.message
  | .file cause => cause.message
  | .unwritable directory => s!"Cannot write to log directory: {directory}"
  | .undecodable cause => cause.message
  | .number cause => cause.message
  | .template cause => cause.message
  | .delayWithoutValue => "'<' not supported between instances of 'list' and 'int'"
  | .pathWithoutValue =>
    "stat: path should be string, bytes, os.PathLike or integer, not list"

/-- Holds of the failures of the operating system. -/
def isSystem (f : Failure) : Bool := f.kind.isSystem

/-- Holds of the failures that end a session. -/
def isFatal (f : Failure) : Bool := f.kind = .fatal

/-- Holds of the user's request to stop. -/
def isKeyboardInterrupt (f : Failure) : Bool := f.kind = .keyboardInterrupt

/-- Holds of a call that a signal cut short. -/
def isInterruptedCall (f : Failure) : Bool := f.kind = .interruptedCall

/-- The user's request to stop. -/
def interrupt : Failure := .raised .keyboardInterrupt ""

/-- A failure of the operating system made fatal; any other failure stays what it is. -/
def fatalIfSystem (cause : String → FatalCause) (f : Failure) : Failure :=
  if f.isSystem then .fatal (cause f.message) else f

/-- A failure of the operating system or a refused value made fatal; any other failure stays what
it is. -/
def fatalIfSystemOrValue (cause : String → FatalCause) (f : Failure) : Failure :=
  if f.isSystem || f.kind.isValue then .fatal (cause f.message) else f

end Failure

end SerialTerminal
