import SerialTerminal.Program
import Std.Time.Zoned.Database

/-!
# Command line

The outer layer of the program. It looks at files, waits for the keyboard and the line, and does
what the library decides, one event at a time.

The device is opened as a file. Its speed and framing are those that the system has set.

This is the command of `SPEC_FULL.md` §12, with the adapters of §11.
-/

namespace SerialTerminal.Shell

/-- The handles of a running session. -/
structure Streams where
  sending : IO.FS.Handle
  receiving : IO.FS.Handle
  journal : Option IO.FS.Handle

/-- The time in seconds since 1970. -/
def readClock : IO Binary64 := do
  let now ← Std.Time.Timestamp.now
  let nanoseconds := now.toNanosecondsSinceUnixEpoch.val
  return Binary64.ofRatio (nanoseconds < 0) nanoseconds.natAbs 1000000000

/-- The time zone of the system. A system without one has universal time. -/
def readZone : IO Calendar.Zone := do
  match ← Std.Time.Database.defaultGetLocalZoneRules.toBaseIO with
  | .error _ => return .utc
  | .ok rules =>
    return ⟨fun seconds =>
      let shown := rules.findLocalTimeTypeForTimestamp (.ofSecondsSinceUnixEpoch ⟨seconds⟩)
      ⟨shown.gmtOffset.second.val, shown.abbreviation.toList⟩⟩

/-- The time stamp of a record. -/
def recordStamp : IO String := do
  let now ← readClock
  let date := match Calendar.Civil.ofReading now (← readZone) with
    | .ok civil => Calendar.TimeFormat.expand CommandLine.defaultTimeFormat.toList civil
    | .error _ => []
  let milliseconds := match LineStamp.split now with
    | .ok (_, ms) => Numeral.zeroPadded 3 ms
    | .error _ => []
  return String.ofList (date ++ ',' :: milliseconds)

/-- Names and values of environment variables. -/
def readEnvironment : IO Config.Environment := do
  let bytes ← try IO.FS.readBinFile "/proc/self/environ" catch _ => pure .empty
  let entries := (Utf8.decode bytes.toList).1.splitOn '\x00'
  return entries.map fun entry =>
    let name := entry.takeWhile (· ≠ '=')
    (String.ofList name, String.ofList (entry.drop (name.length + 1)))

/-- Holds of an operation that can be done. -/
def succeeds {α : Type} (operation : IO α) : IO Bool := return (← operation.toBaseIO).isOk

/-- Holds of a directory that entries can be made in. One is made there and removed again. -/
def admitsEntries (path : String) : IO Bool := do
  let name := s!"{path}/.serialdump{← IO.monoNanosNow}"
  succeeds (IO.FS.createDir name *> IO.FS.removeDir name)

/-- What is at a path. No directory is tried out here: all are held to be open for writing. -/
def look (path : String) : IO (Option Entry) := do
  let here ← IO.currentDir
  match ← (here / path).metadata.toBaseIO with
  | .error _ => return none
  | .ok data =>
    match data.type with
    | .dir =>
      let search ← succeeds (here / (path ++ "/.")).metadata
      return some (.directory ⟨← succeeds (here / path).readDir, true, search⟩)
    | .file =>
      let contents := (← (IO.FS.readBinFile path).toBaseIO).toOption
      let write ← succeeds (IO.FS.Handle.mk path .append)
      let bytes := (contents.map fun bytes => bytes.toList).getD []
      return some (.file bytes ⟨contents.isSome, write, false⟩)
    | _ => return some .device

/-- The path of a place. -/
def pathOf (place : Place) : String := String.ofList ('/' :: Path.ofNames place.reverse)

/-- The tree with what is at a place and above it. -/
def survey (tree : FileTree) : Place → IO FileTree
  | [] => return tree
  | name :: above => do
    let tree ← survey tree above
    match ← look (pathOf (name :: above)) with
    | some entry => return tree.put (name :: above) entry
    | none => return tree

/-- The place that an absolute path names. -/
def placeOf (path : List Char) : Place := (FileTree.properNames path).reverse

/-- The tree with what is at a path and above it. -/
def surveyPath (tree : FileTree) (path : List Char) : IO FileTree :=
  survey tree (placeOf (Path.absolute tree.workingPath path))

/-- The tree with the rights of the directory that entries for a place would be made in. -/
def tryOut (tree : FileTree) (place : Place) : IO FileTree := do
  match place with
  | [] => return tree.put [] (.directory { write := ← admitsEntries "/" })
  | name :: above =>
    match tree.entry? (name :: above) with
    | some ⟨.directory, rights⟩ =>
      let write ← admitsEntries (pathOf (name :: above))
      return tree.put (name :: above) (.directory { rights with write := write })
    | some _ => return tree
    | none => tryOut tree above

/-- The part of the file tree that a command line is about. -/
def treeFor (arguments : List String) (env : Config.Environment) : IO FileTree := do
  let here := placeOf (← IO.currentDir).toString.toList
  let tree ← survey ⟨here, []⟩ here
  match CommandLine.parse arguments with
  | .error _ => return tree
  | .ok options =>
    let tree ← surveyPath tree ((options.path?.getD "").toList)
    match ((options.resolve env).run tree).outcome with
    | .error _ => return tree
    | .ok cfg =>
      if cfg.logDir.isEmpty then return tree
      else
        let path := Journal.logPath tree cfg.logDir Journal.defaultFileName
        tryOut (← surveyPath tree path) (placeOf path).tail

/-- Writes a record to the error stream and to the log file. -/
def record (journal : Option IO.FS.Handle) (severity : Severity) (text : String) : IO Unit := do
  let line := LogFile.line (← recordStamp) (severity, text)
  IO.eprint line
  match journal with
  | some file => do
    file.putStr line
    file.flush
  | none => return ()

/-- The greatest number of milliseconds of one sleep. -/
def longestSleep : Nat := 4000000000

/-- Sleeps for milliseconds, over and over if they are many. -/
def sleepFor (milliseconds : Nat) : IO Unit := do
  for _ in [0:milliseconds / longestSleep] do
    IO.sleep longestSleep.toUInt32
  IO.sleep (milliseconds % longestSleep).toUInt32

/-- Pauses. What is too long for the clock is left to the transmitter, which fails. -/
def pause (seconds : Binary64) : IO Unit :=
  if PauseLimit.nanoseconds seconds then return ()
  else
    match (seconds.scale 1000).truncate with
    | .ok milliseconds => sleepFor (milliseconds.toNat + 1)
    | .error _ => return ()

/-- Does what an event tells. Reads, openings and closings are done elsewhere. -/
def perform (streams : Streams) : Event → IO Unit
  | .record severity text => record streams.journal severity text
  | .written bytes => streams.sending.write ⟨bytes.toArray⟩
  | .flushed => streams.sending.flush
  | .slept seconds => pause seconds
  | .shown bytes => do (← IO.getStdout).write ⟨bytes.toArray⟩
  | .shownFlushed => do (← IO.getStdout).flush
  | _ => return ()

/-- Why a session ends if an event cannot be done. -/
def causeOf (event : Event) (reason : String) : FatalCause :=
  match event with
  | .written _ => .cannotWrite reason
  | .flushed => .cannotFlush reason
  | _ => .cannotShow reason

/-- Does what events tell, up to the first that fails. -/
def performAll (streams : Streams) : List Event → IO (Except Failure Unit)
  | [] => return .ok ()
  | event :: rest => do
    match ← (perform streams event).toBaseIO with
    | .ok () => performAll streams rest
    | .error e => return .error (.fatal (causeOf event (toString e)))

/-- What a handle gave when it was read. -/
abbrev Arrival : Type := Handle × Except IO.Error ByteArray

/-- Starts to read a byte. -/
def await (handle : Handle) (read : IO ByteArray) : IO (Task Arrival) := do
  let task ← IO.asTask read .dedicated
  return task.map fun result => (handle, result)

/-- Starts to read from the line. -/
def awaitLine (streams : Streams) : IO (Task Arrival) := await .line (streams.receiving.read 1)

/-- Starts to read from the keyboard. -/
def awaitKeyboard : IO (Task Arrival) := await .keyboard (do (← IO.getStdin).read 1)

/-- What a read came to, as a script. A line that ends is gone. -/
def scriptOf : Arrival → Script (List UInt8)
  | (.line, .ok bytes) =>
    if bytes.isEmpty then [.error (.fatal (.cannotRead "end of data"))] else [.ok bytes.toList]
  | (_, .ok bytes) => [.ok bytes.toList]
  | (_, .error e) => [.error (.fatal (.cannotRead (toString e)))]

/-- A terminal that finds an arrival and the time of day. -/
def meet (t : Terminal) (arrival : Arrival) (now : Binary64) : Terminal :=
  let script := scriptOf arrival
  { t with
    inbound.incoming := script
    inbound.viewer.clock := .ofReadings [now] t.inbound.viewer.clock.zone
    outbound.typed := script }

/-- Serves the keyboard and the line until something ends the conversation. -/
partial def converse (streams : Streams) (journal : Journal) (t : Terminal)
    (line keyboard : Task Arrival) : IO (Except Failure Unit) := do
  let arrival ← if t.keyboardOpen then IO.waitAny [line, keyboard] else IO.wait line
  let step := (Terminal.poll (.ok [arrival.1])).run (meet t arrival (← readClock))
  match ← performAll streams ((Journal.follow step.events).run journal).events, step.outcome with
  | .error e, _ => return .error e
  | .ok (), .error e => return .error e
  | .ok (), .ok () =>
    if arrival.1 = .line then converse streams journal step.state (← awaitLine streams) keyboard
    else if step.state.keyboardOpen then
      converse streams journal step.state line (← awaitKeyboard)
    else converse streams journal step.state line keyboard

/-- Opens the device for both directions. -/
def openDevice (path : String) : IO (IO.FS.Handle × IO.FS.Handle) := do
  let receiving ← IO.FS.Handle.mk path .read
  return (← IO.FS.Handle.mk path .append, receiving)

/-- Opens the log file of a configuration. -/
def openJournal (journal : Journal) (cfg : Config) : IO (Option IO.FS.Handle) := do
  match journal.files with
  | [] => return none
  | file :: _ =>
    IO.FS.createDirAll cfg.logDir
    return some (← IO.FS.Handle.mk (String.ofList file.path) .append)

/-- The world of a session whose port was opened or not. -/
def sessionOf (reply : Except Failure Unit) (now : Binary64) (zone : Calendar.Zone) : Session :=
  { port := .ofLine ⟨[], ⟨[], []⟩, [reply], []⟩
    typed := []
    clock := .ofReadings [now] zone
    output := .willing
    watchSet := .ofRegistrations []
    waits := []
    pauseLimit := .nanoseconds }

/-- Runs a session and gives the exit status. -/
def session (cfg : Config) (journal : Journal) : IO UInt32 := do
  let file ← openJournal journal cfg
  let tell (events : List Event) : IO Unit := do
    for event in ((Journal.follow events).run journal).events do
      match event with
      | .record severity text => record file severity text
      | _ => pure ()
  let handles ← (openDevice cfg.device).toBaseIO
  let reply : Except Failure Unit := match handles with
    | .ok _ => .ok ()
    | .error e => .error (.raised .system (toString e))
  let connection := (Session.connect cfg).run (sessionOf reply (← readClock) (← readZone))
  tell connection.events
  match handles, Session.terminal cfg connection.state with
  | .ok (sending, receiving), .ok t =>
    let streams : Streams := ⟨sending, receiving, file⟩
    let ending ← converse streams journal t (← awaitLine streams) (← awaitKeyboard)
    let finish := (Session.finish cfg ending).run connection.state
    tell finish.events
    return match finish.outcome with
      | .ok status => status.toUInt32
      | .error _ => 1
  | _, _ => return 1

/-- Prints what a program that is over leaves behind. -/
def printReport (report : Report) : IO UInt32 := do
  IO.print report.standardOutput
  IO.eprint report.standardError
  match report.ending with
  | .status code | .exit code => return code.toUInt32
  | .failed cause => do
    IO.eprintln cause.message
    return 1

/-- Runs the program. -/
def run (arguments : List String) : IO UInt32 := do
  let env ← readEnvironment
  let tree ← treeFor arguments env
  let step := (Program.prepare arguments env).run (.create tree false)
  for event in step.events do
    match event with
    | .record severity text => record none severity text
    | _ => pure ()
  match step.outcome with
  | .ok (.ready cfg) => session cfg step.state
  | .ok (.over report) => printReport report
  | .error e => printReport ⟨.failed e, none, "", ""⟩

end SerialTerminal.Shell

/-- Runs the terminal with the arguments of a command line. -/
def main (arguments : List String) : IO UInt32 := SerialTerminal.Shell.run arguments
