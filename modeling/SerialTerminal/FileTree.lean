import SerialTerminal.Path
import SerialTerminal.Text.Quoted

/-!
# File trees

Directories and files, and a working directory from which relative paths are walked. A walk goes
through directories only: `..` leads above the directory that was reached, so whatever is in front
of it must exist.

Directories can be made, one or with all that are missing above it, and files can be read and
opened for appending. Each has its own ways to fail. An entry has rights: a directory may not be
searched or not be written to, a file may not be read or not be written to.

This is the part of a file system that the configuration file (`SPEC_FULL.md` §10) and the log files
(§13) are looked for in.
-/

namespace SerialTerminal

/-- What the program may do with an entry. To search a directory is to go to a name in it. -/
structure Rights where
  read : Bool := true
  write : Bool := true
  search : Bool := true
deriving DecidableEq, Repr

/-- What a path can lead to. -/
inductive EntryKind where
  | directory
  | file (contents : List UInt8)
  | device
deriving DecidableEq, Repr

/-- What a path leads to, and what may be done with it. -/
structure Entry where
  kind : EntryKind
  rights : Rights
deriving DecidableEq, Repr

namespace Entry

/-- A directory. -/
def directory (rights : Rights := {}) : Entry := ⟨.directory, rights⟩

/-- A file. -/
def file (contents : List UInt8) (rights : Rights := {}) : Entry := ⟨.file contents, rights⟩

/-- A device. -/
def device (rights : Rights := {}) : Entry := ⟨.device, rights⟩

end Entry

/-- Why a path cannot be used. -/
inductive FileError where
  | missing
  /-- The rights are not sufficient. -/
  | denied
  | exists
  | notDirectory
  | isDirectory
  | nameTooLong
  /-- The path holds a NUL character. -/
  | nul
deriving DecidableEq, Repr

/-- The number of an error of the file system. -/
def FileError.number : FileError → Nat
  | .missing => 2
  | .denied => 13
  | .exists => 17
  | .notDirectory => 20
  | .isDirectory => 21
  | .nameTooLong => 36
  | .nul => 22

/-- What an error of the file system means. -/
def FileError.meaning : FileError → String
  | .missing => "No such file or directory"
  | .denied => "Permission denied"
  | .exists => "File exists"
  | .notDirectory => "Not a directory"
  | .isDirectory => "Is a directory"
  | .nameTooLong => "File name too long"
  | .nul => "embedded null byte"

/-- An error at a path. -/
structure FileFailure where
  error : FileError
  path : List Char
deriving DecidableEq, Repr

/-- The wording of an error at a path. A path with a NUL is not named. -/
def FileFailure.message (f : FileFailure) : String :=
  if f.error = .nul then f.error.meaning
  else s!"[Errno {f.error.number}] {f.error.meaning}: {String.ofList (Text.quote f.path)}"

/-- A place in a tree: the names that lead to it, the last one first. -/
abbrev Place : Type := List (List Char)

/-- A tree of files. The root is always a directory; an entry at its place gives its rights. -/
structure FileTree where
  workingDirectory : Place
  entries : List (Place × Entry)

namespace FileTree

/-- The path of the working directory. -/
def workingPath (tree : FileTree) : List Char :=
  '/' :: Path.ofNames tree.workingDirectory.reverse

/-- The entry that was put at a place last. -/
def lastPut? (tree : FileTree) (place : Place) : Option Entry :=
  (tree.entries.find? fun entry => entry.1 = place).map (·.2)

/-- What is at a place. -/
def entry? (tree : FileTree) (place : Place) : Option Entry :=
  if place = [] then some (.directory (((tree.lastPut? []).map Entry.rights).getD {}))
  else tree.lastPut? place

/-- What kind of entry is at a place. -/
def kind? (tree : FileTree) (place : Place) : Option EntryKind :=
  (tree.entry? place).map Entry.kind

/-- Holds of the places with an entry that has a right. -/
def permits (tree : FileTree) (right : Rights → Bool) (place : Place) : Bool :=
  (tree.entry? place).any fun entry => right entry.rights

/-- The tree with an entry put at a place. -/
def put (tree : FileTree) (place : Place) (entry : Entry) : FileTree :=
  { tree with entries := (place, entry) :: tree.entries }

/-- The greatest number of bytes of a name. -/
def nameLimit : Nat := 255

/-- The greatest number of bytes of a path. -/
def pathLimit : Nat := 4095

/-- Number of bytes of a text. -/
def byteLength (text : List Char) : Nat := text.foldl (fun n c => n + c.utf8Size) 0

/-- Goes from a directory to one of its names. -/
def step (tree : FileTree) (place : Place) (name : List Char) : Except FileError Place :=
  if tree.kind? place ≠ some .directory then .error .notDirectory
  else if ¬ tree.permits Rights.search place then .error .denied
  else if name = Path.here then .ok place
  else if name = Path.above then .ok place.tail
  else if nameLimit < byteLength name then .error .nameTooLong
  else if (tree.entry? (name :: place)).isSome then .ok (name :: place)
  else .error .missing

/-- Goes from a directory along names. -/
def walk (tree : FileTree) (place : Place) : List (List Char) → Except FileError Place
  | [] => .ok place
  | name :: rest =>
    match tree.step place name with
    | .ok next => tree.walk next rest
    | .error e => .error e

/-- Where the walk along a path starts. -/
def origin (tree : FileTree) (path : List Char) : Place :=
  if Path.isAbsolute path then [] else tree.workingDirectory

/-- The names of a path that are not empty. -/
def properNames (path : List Char) : List (List Char) := (Path.names path).filter (· ≠ [])

/-- Refuses the paths that lead nowhere in any tree. -/
def checkPath (path : List Char) : Except FileError Unit :=
  if '\x00' ∈ path then .error .nul
  else if path.isEmpty then .error .missing
  else if pathLimit < byteLength path then .error .nameTooLong
  else .ok ()

/-- The place that a path leads to. In front of a slash at the end there has to be a directory. -/
def locate (tree : FileTree) (path : List Char) : Except FileError Place := do
  checkPath path
  let place ← tree.walk (tree.origin path) (properNames path)
  if path.getLast? = some '/' ∧ tree.kind? place ≠ some .directory then .error .notDirectory
  else .ok place

/-- What a path leads to. -/
def find? (tree : FileTree) (path : List Char) : Option Entry :=
  match tree.locate path with
  | .ok place => tree.entry? place
  | .error _ => none

/-- Holds of the paths that lead somewhere. -/
def contains (tree : FileTree) (path : List Char) : Bool := (tree.find? path).isSome

/-- Holds of the paths of directories. -/
def isDirectory (tree : FileTree) (path : List Char) : Bool :=
  (tree.find? path).map Entry.kind = some .directory

/-- Holds of the paths that lead to what may be written to. -/
def mayWrite (tree : FileTree) (path : List Char) : Bool :=
  (tree.find? path).any fun entry => entry.rights.write

/-- The contents of the file that a path leads to, whoever may read them. -/
def contents? (tree : FileTree) (path : List Char) : Option (List UInt8) :=
  match (tree.find? path).map Entry.kind with
  | some (.file contents) => some contents
  | _ => none

/-- The contents of the file that a path leads to, if they may be read. Where there is no file,
there is nothing to read. -/
def read (tree : FileTree) (path : List Char) : Except FileFailure (Option (List UInt8)) :=
  match tree.contents? path with
  | none => .ok none
  | some contents =>
    if (tree.find? path).any fun entry => entry.rights.read then .ok (some contents)
    else .error ⟨.denied, path⟩

/-- Where a new entry may be put for a path: in an existing directory that may be written to, under
a name of its own. -/
def vacancy (tree : FileTree) (path : List Char) : Except FileError Place := do
  checkPath path
  match (properNames path).reverse with
  | [] => .error .exists
  | name :: above =>
    let place ← tree.walk (tree.origin path) above.reverse
    if tree.kind? place ≠ some .directory then .error .notDirectory
    else if ¬ tree.permits Rights.search place then .error .denied
    else if name = Path.here ∨ name = Path.above then .error .exists
    else if nameLimit < byteLength name then .error .nameTooLong
    else if (tree.entry? (name :: place)).isSome then .error .exists
    else if ¬ tree.permits Rights.write place then .error .denied
    else .ok (name :: place)

/-- Makes a directory. -/
def makeDirectory (tree : FileTree) (path : List Char) : Except FileError FileTree :=
  (tree.vacancy path).map fun place => tree.put place .directory

/-- A path split into the directory and the name in it. A slash at the end is passed over. -/
def splitDirectory (path : List Char) : List Char × List Char :=
  if Path.fileName path = [] then (Path.parent (Path.parent path), Path.fileName (Path.parent path))
  else (Path.parent path, Path.fileName path)

/-- The directory of a name is shorter than the path. -/
theorem length_splitDirectory_lt {path : List Char} (h : (splitDirectory path).2 ≠ []) :
    (splitDirectory path).1.length < path.length := by
  unfold splitDirectory at h ⊢
  split
  · rename_i hname
    simp only [hname, if_true] at h
    have := Path.length_parent_lt h
    have := Path.length_parent_le path
    simp only
    omega
  · rename_i hname
    exact Path.length_parent_lt hname

/-- Makes a directory unless there is one. -/
def ensureDirectory (tree : FileTree) (path : List Char) : FileTree × Option FileFailure :=
  match tree.makeDirectory path with
  | .ok made => (made, none)
  | .error e =>
    (tree, if e ≠ .nul ∧ tree.isDirectory path then none else some ⟨e, path⟩)

/-- Makes a directory and all that are missing above it. What was made stays if a later one fails.
An entry that is in the way of a directory above does not count as a failure there. -/
def makeDirectories (tree : FileTree) (path : List Char) : FileTree × Option FileFailure :=
  if _h : (splitDirectory path).2 ≠ [] then
    let head := (splitDirectory path).1
    if head = [] ∨ tree.contains head then tree.ensureDirectory path
    else
      match tree.makeDirectories head with
      | (made, failure) =>
        match failure.filter fun f => f.error ≠ .exists with
        | some f => (made, some f)
        | none =>
          if (splitDirectory path).2 = Path.here then (made, none)
          else made.ensureDirectory path
  else tree.ensureDirectory path
termination_by path.length
decreasing_by exact length_splitDirectory_lt _h

/-- Opens a file for appending, which makes it if it is missing. Gives what it holds so far; a
device holds nothing. -/
def openForAppend (tree : FileTree) (path : List Char) :
    Except FileError (FileTree × Option (List UInt8)) :=
  match tree.locate path with
  | .ok place =>
    if tree.kind? place = some .directory then .error .isDirectory
    else if ¬ tree.permits Rights.write place then .error .denied
    else
      match tree.kind? place with
      | some (.file contents) => .ok (tree, some contents)
      | _ => .ok (tree, none)
  | .error .missing => (tree.vacancy path).map fun place => (tree.put place (.file []), some [])
  | .error e => .error e

end FileTree

end SerialTerminal
