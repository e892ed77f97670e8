import SerialTerminal.Act
import SerialTerminal.Config.Environment
import SerialTerminal.Config.File
import SerialTerminal.Text.Utf8

/-!
# Loading a configuration

A configuration comes from a file, if there is one, and from the environment above it. Each layer
has to be valid on its own, also where a higher one replaces its values.

A relative log directory in a file is seen from the directory of the file, or from a base directory
if one is given.

This is what `load_config` does with the sources of `SPEC_FULL.md` §10.
-/

namespace SerialTerminal.Config

/-- The layer of the text of a file. If the file ends in what is no text, the lines before it are
read nevertheless, so that a number without an integer part is found first. -/
def layerOfBytes (bytes : List UInt8) : Except Failure Layer :=
  match Utf8.decode bytes with
  | (text, none) => (File.readLines (Text.lines text)).mapError .number
  | (text, some malformed) =>
    match File.readLines (Text.settledLines text) with
    | .ok _ => .error (.undecodable malformed)
    | .error cause => .error (.number cause)

/-- A directory as it is seen from a base. A directory that is not given stays so. -/
def seenFrom (base : List Char) (directory : List Char) : List Char :=
  if directory.isEmpty then directory else Path.join base directory

/-- A layer whose log directory is seen from a base. -/
def withLogDirFrom (base : List Char) (layer : Layer) : Layer :=
  match layer.get? .logDir with
  | some (.text directory) =>
    layer.set .logDir (.text (String.ofList (seenFrom base directory.toList)))
  | _ => layer

/-- The directory of the file at a path. -/
def directoryOf (tree : FileTree) (path : List Char) : List Char :=
  Path.parent (Path.absolute tree.workingPath path)

/-- The layer of the file at a path. Where there is no file, nothing is supplied. -/
def readFile (path : String) (base : Option String) : Act FileTree Layer := do
  let tree ← Act.get
  match ← Act.ofExcept ((tree.read path.toList).mapError .file) with
  | none => return .empty
  | some bytes =>
    let layer ← Act.ofExcept (layerOfBytes bytes)
    Act.log .debug s!"Loaded configuration from {path}"
    let directory := (base.map String.toList).getD (directoryOf tree path.toList)
    return withLogDirFrom directory layer

/-- The configuration under a layer and the environment above it. -/
def underEnvironment (layer : Layer) (env : Environment) : Except Faults Config := do
  let cfg ← build layer {}
  let overrides ← Overrides.ofEnvironment env
  if overrides.toLayer = .empty then return cfg else build overrides.toLayer cfg

/-- Loads a configuration (`load_config`). -/
def load (env : Environment) (path base : Option String) : Act FileTree Config := do
  let layer ← match path with
    | some path => readFile path base
    | none => Act.done .empty
  Act.ofExcept ((underEnvironment layer env).mapError fun found => .misconfigured (.faults found))

end SerialTerminal.Config
