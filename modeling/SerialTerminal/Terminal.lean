import SerialTerminal.Config.Basic
import SerialTerminal.Display.Viewer
import SerialTerminal.Transmitter
import SerialTerminal.WatchSet

/-!
# Terminal

Joins the keyboard, the line and the screen. What is typed goes to the line, what the line receives
is shown. The two directions share nothing but the wait: each has a state of its own.

One poll waits, then serves the keyboard and then the line. A wait that a signal cut short is no
failure. The keyboard may end; the terminal then goes on with the line alone.

This is the stream multiplexer of `SPEC_FULL.md` §4.1.
-/

namespace SerialTerminal

/-- The direction from the line to the screen. -/
structure Inbound where
  viewer : Viewer
  incoming : Script (List UInt8)

/-- The direction from the keyboard to the line. -/
structure Outbound where
  transmitter : Transmitter
  typed : Script (List UInt8)
  line : LineOutput

/-- A running terminal. -/
structure Terminal where
  inbound : Inbound
  outbound : Outbound
  keyboardOpen : Bool
  watchSet : WatchSet

namespace Inbound

/-- Reads bytes that the line holds. -/
def read (limit : Nat) : Act Inbound (List UInt8) :=
  Act.on incoming (fun incoming i => { i with incoming := incoming }) (readChunk .line limit)

/-- Shows bytes and makes the output pass them on. A failure of the operating system is fatal. -/
def render (data : List UInt8) : Act Inbound Unit :=
  Act.mapFailure (Failure.fatalIfSystem .cannotShow)
    (Act.on viewer (fun viewer i => { i with viewer := viewer }) do
      Viewer.feed data
      Viewer.flush)

end Inbound

namespace Outbound

/-- Reads typed bytes. -/
def read (limit : Nat) : Act Outbound (List UInt8) :=
  Act.on typed (fun typed o => { o with typed := typed }) (readChunk .keyboard limit)

/-- Sends bytes to the line. -/
def send (data : List UInt8) : Act Outbound Unit := do
  let transmitter ← Act.gets transmitter
  Act.on line (fun line o => { o with line := line }) (transmitter.send data)

end Outbound

namespace Terminal

/-- Number of bytes read at a time. -/
def readLimit : Nat := 40

/-- Runs an act of the inbound direction. -/
def onInbound {α : Type} (x : Act Inbound α) : Act Terminal α :=
  Act.on inbound (fun inbound t => { t with inbound := inbound }) x

/-- Runs an act of the outbound direction. -/
def onOutbound {α : Type} (x : Act Outbound α) : Act Terminal α :=
  Act.on outbound (fun outbound t => { t with outbound := outbound }) x

/-- Runs an act of the watch set. -/
def onWatchSet {α : Type} (x : Act WatchSet α) : Act Terminal α :=
  Act.on watchSet (fun watchSet t => { t with watchSet := watchSet }) x

/-- A terminal that watches nothing yet (`build_multiplexer`). The clock is read once. -/
def create (cfg : Config) (clock : Clock) (output : Output) (incoming typed : Script (List UInt8))
    (line : LineOutput) (watchSet : WatchSet) (limit : PauseLimit := .none) :
    Except Failure Terminal :=
  (Transmitter.create cfg.mode cfg.delayUs limit).map fun transmitter =>
    { inbound := ⟨.start cfg.mode cfg.timeFormat cfg.startTime clock output, incoming⟩
      outbound := ⟨transmitter, typed, line⟩
      keyboardOpen := true
      watchSet := watchSet }

/-- Watches the keyboard and the line. -/
def watchBoth : Act Terminal Unit := do
  onWatchSet (WatchSet.watch .keyboard)
  onWatchSet (WatchSet.watch .line)

/-- Takes note of the end of the keyboard, which would be ready forever. -/
def endKeyboard : Act Terminal Unit := do
  onWatchSet (WatchSet.unwatch .keyboard)
  Act.modify fun t => { t with keyboardOpen := false }
  Act.log .info "console input closed, relaying serial output only"

/-- Sends what was typed. -/
def serveKeyboard : Act Terminal Unit := do
  let data ← onOutbound (Outbound.read readLimit)
  if data.isEmpty then endKeyboard else onOutbound (Outbound.send data)

/-- Shows what was received. -/
def serveLine : Act Terminal Unit := do
  let data ← onInbound (Inbound.read readLimit)
  onInbound (Inbound.render data)

/-- Serves the handles that are ready, the keyboard first. -/
def serve (ready : List Handle) : Act Terminal Unit := do
  if .keyboard ∈ ready then serveKeyboard
  if .line ∈ ready then serveLine

/-- One round: a wait and what it leads to (`poll_once`). -/
def poll (wait : Wait) : Act Terminal Unit :=
  match wait with
  | .ok ready => serve ready
  | .error e =>
    if e.isInterruptedCall then Act.log .debug "interrupted system call"
    else Act.fail (e.fatalIfSystem .cannotWait)

/-- Rounds until one fails (`run_forever`). After the last wait the user stops the terminal. -/
def pollAll : List Wait → Act Terminal Unit
  | [] => Act.fail Failure.interrupt
  | wait :: rest => do
    poll wait
    pollAll rest

end Terminal

end SerialTerminal
