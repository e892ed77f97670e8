import SerialTerminal.Act
import SerialTerminal.Template.Expansion
import SerialTerminal.Text.Lines

/-!
# Journal

The journal takes records and passes them on, also to log files. Debug records are kept only where
the journal is told so. A record that is not kept leaves no trace.

A log file is opened once, however its path is spelled. It gets the records that are kept from then
on, behind what it held before. A device can be opened like a file, but what it gets is gone.

This is the logging of `SPEC_FULL.md` §13.
-/

namespace SerialTerminal

/-- The severity of a level. Levels that mean nothing else are for information. -/
def Severity.ofLevel (level : Int) : Severity :=
  if level = 0 then .error
  else if level = 1 then .warning
  else if level = 3 then .debug
  else .info

/-- An open log file. -/
structure LogFile where
  /-- The absolute path in its normal form. -/
  path : List Char
  /-- What the file held when it was opened. A device holds nothing, then or later. -/
  earlier : Option (List UInt8)
  /-- The records that it got since. -/
  records : List (Severity × String)
deriving DecidableEq, Repr

/-- The line of a record behind a time stamp. -/
def LogFile.line (stamp : String) (record : Severity × String) : String :=
  stamp ++ " " ++ record.1.name ++ ": " ++ record.2 ++ "\n"

/-- The bytes of a log file whose records all have one time stamp. -/
def LogFile.contents (file : LogFile) (stamp : String) : List UInt8 :=
  match file.earlier with
  | some earlier =>
    earlier ++ file.records.flatMap fun record => (line stamp record).toUTF8.toList
  | none => []

/-- The lines of a log file whose records all have one time stamp. What it held before may be no
text. -/
def LogFile.lines (file : LogFile) (stamp : String) : Except Utf8.Error (List (List Char)) :=
  (Utf8.read (file.contents stamp)).map Text.lines

/-- A journal and the tree that its files are in. -/
structure Journal where
  tree : FileTree
  debug : Bool
  files : List LogFile

namespace Journal

/-- The name of a log file that is given none. -/
def defaultFileName : String := "serialdump.log"

/-- A journal without files. -/
def create (tree : FileTree) (debug : Bool) : Journal := ⟨tree, debug, []⟩

/-- Holds of the severities that are kept. -/
def keeps (journal : Journal) (severity : Severity) : Bool := journal.debug || severity ≠ .debug

/-- A record added to every file. -/
def append (journal : Journal) (record : Severity × String) : Journal :=
  { journal with
    files := journal.files.map fun file => { file with records := file.records ++ [record] } }

/-- Takes a record. -/
def log (severity : Severity) (text : String) : Act Journal Unit := do
  if keeps (← Act.get) severity then
    Act.log severity text
    Act.modify fun journal => journal.append (severity, text)

/-- Takes a record whose text is written from a template (`logprintf`), in the room that there is
for it. -/
def logTemplate (level : Int) (template : String) (arguments : List Template.Argument)
    (room : Nat := Template.usualRoom) : Act Journal Unit :=
  match Template.text template arguments room with
  | .ok text => log (.ofLevel level) text
  | .error cause => Act.fail (.template cause)

/-- Takes the records among events and passes on the other events. -/
def follow (events : List Event) : Act Journal Unit :=
  Act.forEach (fun event => match event with
    | .record severity text => log severity text
    | other => Act.emit other) events

/-- Keeps debug records from now on, or leaves them out. -/
def setDebug (debug : Bool) : Act Journal Unit :=
  Act.modify fun journal => { journal with debug := debug }

/-- The path of a log file, absolute and in its normal form. -/
def logPath (tree : FileTree) (directory fileName : String) : List Char :=
  Path.absolute tree.workingPath (Path.join directory.toList fileName.toList)

/-- Opens a log file, unless it is open. -/
def openFile (path : List Char) : Act Journal Unit := fun journal =>
  if journal.files.any fun file => file.path = path then ⟨.ok (), journal, []⟩
  else
    match journal.tree.openForAppend path with
    | .ok (tree, earlier) =>
      ⟨.ok (), { journal with tree := tree, files := journal.files ++ [⟨path, earlier, []⟩] }, []⟩
    | .error e => ⟨.error (.file ⟨e, path⟩), journal, []⟩

/-- Makes a directory for log files, with all that are missing above it. -/
def makeDirectory (directory : String) : Act Journal Unit := fun journal =>
  match journal.tree.makeDirectories directory.toList with
  | (tree, none) => ⟨.ok (), { journal with tree := tree }, []⟩
  | (tree, some failure) => ⟨.error (.file failure), { journal with tree := tree }, []⟩

/-- Checks that a directory may be written to. -/
def requireWritable (directory : String) : Act Journal Unit := do
  if (← Act.gets tree).mayWrite directory.toList then Act.done ()
  else Act.fail (.unwritable directory)

/-- Keeps records in a file of a directory from now on (`setup_file_logging`). Gives the path of the
file. A file that is open already is kept as it is, but the directory is looked at nevertheless. -/
def setUpFile (directory fileName : String) : Act Journal String := do
  makeDirectory directory
  requireWritable directory
  let path := logPath (← Act.gets tree) directory fileName
  openFile path
  return String.ofList path

/-- Sets what is kept, and keeps records in a directory if one is given (`configure_logging`). -/
def configure (debug : Bool) (directory : String) : Act Journal Unit := do
  setDebug debug
  if directory ≠ "" then
    let _ ← setUpFile directory defaultFileName
    Act.done ()

/-- What a file holds by now, if the records since its opening have one time stamp. -/
def contents? (journal : Journal) (path : List Char) (stamp : String) : Option (List UInt8) :=
  let normal := Path.absolute journal.tree.workingPath path
  match journal.files.find? fun file => file.path = normal with
  | some file => some (file.contents stamp)
  | none => journal.tree.contents? path

/-- The lines of a file, if there is one and the records since its opening have one time stamp. -/
def lines? (journal : Journal) (path : List Char) (stamp : String) :
    Except Utf8.Error (Option (List (List Char))) :=
  match journal.contents? path stamp with
  | some contents => (Utf8.read contents).map fun text => some (Text.lines text)
  | none => .ok none

end Journal

end SerialTerminal
