import SerialTerminal.Config.Layer

/-!
# Switches of the command line

A switch has one or more spellings. Some take a value. The switches for display modes each stand
for a layer of a configuration.

They are the options of `SPEC_FULL.md` §12.
-/

namespace SerialTerminal.CommandLine

/-- The switches that choose a display mode and take no value. -/
inductive ModeChoice where
  | hex
  | decimal
  | slipAuto
  | slip
  | slipHide
  | stamped
  | stampedSinceStart
deriving DecidableEq, Repr

/-- The switches. -/
inductive Switch where
  | help
  | baudrate
  | mode (choice : ModeChoice)
  | stampFormat
  | delay
  | config
  | logDir
  | debug
deriving DecidableEq, Repr

/-- The fields of a configuration that set a display mode. -/
def modeLayer (mode : DisplayMode) : Config.Layer := .ofFields [(.mode, .text mode.name)]

/-- The layer of lines with a stamp that counts seconds. -/
def stampedLayer (sinceStart : Bool) : Config.Layer :=
  .ofFields
    [(.mode, .text DisplayMode.startDate.name),
     (.timeFormat, .null),
     (.startTime, .bool sinceStart)]

/-- The layer of a choice. -/
def ModeChoice.layer : ModeChoice → Config.Layer
  | .hex => modeLayer .hex
  | .decimal => modeLayer .int
  | .slipAuto => modeLayer .slipAuto
  | .slip => modeLayer .slip
  | .slipHide => modeLayer .slipHide
  | .stamped => stampedLayer false
  | .stampedSinceStart => stampedLayer true

namespace Switch

/-- The spellings of all switches, in the order in which they are listed to the user. -/
def spellings : List (List Char × Switch) :=
  [("-h".toList, .help),
   ("--help".toList, .help),
   ("-b".toList, .baudrate),
   ("-B".toList, .baudrate),
   ("-x".toList, .mode .hex),
   ("-i".toList, .mode .decimal),
   ("-s".toList, .mode .slipAuto),
   ("-so".toList, .mode .slip),
   ("-sn".toList, .mode .slipHide),
   ("-t".toList, .mode .stamped),
   ("-t0".toList, .mode .stampedSinceStart),
   ("-T".toList, .stampFormat),
   ("-d".toList, .delay),
   ("-c".toList, .config),
   ("--config".toList, .config),
   ("--logdir".toList, .logDir),
   ("--debug".toList, .debug)]

/-- The switch of a spelling. -/
def ofSpelling? (text : List Char) : Option Switch :=
  (spellings.find? fun entry => entry.1 = text).map (·.2)

/-- Holds of the switches that take a value. -/
def takesValue : Switch → Bool
  | .baudrate | .stampFormat | .delay | .config | .logDir => true
  | _ => false

/-- A switch as messages name it: by all its spellings. -/
def title (switch : Switch) : String :=
  String.intercalate "/"
    ((spellings.filter fun entry => entry.2 = switch).map fun entry => String.ofList entry.1)

end Switch

/-- What is wrong with a command line. -/
inductive UsageError where
  | ambiguous (text : List Char) (candidates : List (List Char))
  | valueMissing (switch : Switch)
  | valueUnused (switch : Switch) (text : List Char)
  | notAnInteger (switch : Switch) (text : List Char)
  | unrecognized (texts : List (List Char))
deriving DecidableEq, Repr

/-- What is missing where a switch has no value. -/
def expectation : Switch → String
  | .stampFormat => "expected 1 argument"
  | _ => "expected one argument"

/-- The wording of a usage error. -/
def UsageError.message : UsageError → String
  | .ambiguous text candidates =>
    let names := String.intercalate ", " (candidates.map String.ofList)
    s!"ambiguous option: {String.ofList text} could match {names}"
  | .valueMissing switch => s!"argument {switch.title}: {expectation switch}"
  | .valueUnused switch text =>
    s!"argument {switch.title}: ignored explicit argument {String.ofList (Text.quote text)}"
  | .notAnInteger switch text =>
    s!"argument {switch.title}: invalid int value: {String.ofList (Text.quote text)}"
  | .unrecognized texts =>
    let names := String.intercalate " " (texts.map String.ofList)
    s!"unrecognized arguments: {names}"

end SerialTerminal.CommandLine
