import SerialTerminal.Keyboard
import SerialTerminal.SerialPort
import SerialTerminal.Terminal

/-!
# Session

A terminal from the opening of its line to the closing. Whatever ends a session, the wait set and
then the port are closed once. A fatal failure is recorded and makes the exit status 1; the user's
request to stop makes it 0.

The classes of failures are those of `SPEC_FULL.md` §7, the exit statuses those of §14.
-/

namespace SerialTerminal

/-- The world that a session meets. -/
structure Session where
  port : SerialPort
  typed : Script (List UInt8)
  clock : Clock
  output : Output
  watchSet : WatchSet
  waits : List Wait
  /-- The pauses that cannot be made. -/
  pauseLimit : PauseLimit := .none

namespace Session

/-- Runs an act of the port. -/
def onPort {α : Type} (x : Act SerialPort α) : Act Session α :=
  Act.on port (fun port s => { s with port := port }) x

/-- The terminal of a session whose port is open. -/
def terminal (cfg : Config) (s : Session) : Except Failure Terminal :=
  Terminal.create cfg s.clock s.output s.port.incoming (Keyboard.guarded s.typed) s.port.output
    s.watchSet s.pauseLimit

/-- Runs the terminal until it fails or is stopped. -/
def converse (cfg : Config) : Act Session Unit := fun s =>
  match terminal cfg s with
  | .error e => ⟨.error e, s, []⟩
  | .ok t =>
    let step := (Terminal.watchBoth >>= fun _ => Terminal.pollAll s.waits).run t
    ⟨step.outcome, s, step.events⟩

/-- The exit status of an ended conversation, with a record of why it ended. What is neither fatal
nor a request to stop is passed on. -/
def verdict (cfg : Config) (ending : Except Failure Unit) : Act Session (Except Failure Nat) :=
  match ending with
  | .ok () => Act.done (.ok 0)
  | .error e =>
    if e.isFatal then do
      Act.log .error e.message
      return .ok 1
    else if e.isKeyboardInterrupt then do
      Act.log .info s!"Interrupted, closing {cfg.device}"
      return .ok 0
    else Act.done (.error e)

/-- Opens the port. Gives the exit status if that fails for good. -/
def connect (cfg : Config) : Act Session (Option Nat) := do
  match ← Act.attempt (onPort (SerialPort.open cfg.device cfg.baudrate)) with
  | .ok () =>
    Act.log .info s!"connecting to {cfg.device} ({cfg.baudrate}) [OK]"
    return none
  | .error e =>
    if e.isFatal then do
      Act.log .error e.message
      return some 1
    else Act.fail e

/-- Closes the wait set and the port after a conversation, and gives the exit status. -/
def finish (cfg : Config) (ending : Except Failure Unit) : Act Session Nat := do
  let status ← verdict cfg ending
  Act.emit .waitClosed
  onPort SerialPort.close
  Act.ofExcept status

/-- Runs a session and gives its exit status (`run` of the runtime). -/
def run (cfg : Config) : Act Session Nat := do
  match ← connect cfg with
  | some status => return status
  | none =>
    let ending ← Act.attempt (converse cfg)
    finish cfg ending

end Session

end SerialTerminal
