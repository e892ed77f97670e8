import SerialTerminal.CommandLine.Options
import SerialTerminal.Config.Load

/-!
# Resolution of a command line

The options of a command line are the topmost layer of a configuration. They are looked at before a
file is read: a command line names at most one device, and its delay must not be negative.

This is the topmost layer of `SPEC_FULL.md` §10, from the command line of §12.
-/

namespace SerialTerminal.CommandLine

namespace Options

/-- The layer of the options. Switches for display modes come last. -/
def toLayer (options : Options) : Config.Layer :=
  (Config.Layer.ofFields
    ((options.devices.head?.map fun s => (Config.Field.device, Config.Value.text s)).toList
      ++ (options.baudrate.map fun v => (Config.Field.baudrate, v)).toList
      ++ (options.delay.map fun v => (Config.Field.delayUs, v)).toList
      ++ (options.logDir.map fun v => (Config.Field.logDir, v)).toList
      ++ if options.debug then [(Config.Field.debug, Config.Value.bool true)] else [])).update
    options.display

/-- What is wrong with the number of devices. -/
def devicesObjection? (options : Options) : Option Failure :=
  if 1 < options.devices.length then some (.misconfigured .tooManyDevices) else none

/-- What is wrong with the delay. -/
def delayObjection? (options : Options) : Option Failure :=
  match options.delay with
  | some (.int n) => if n < 0 then some (.misconfigured .negativeDelay) else none
  | some _ => some .delayWithoutValue
  | none => none

/-- What is wrong with the path of the configuration file. -/
def pathObjection? (options : Options) : Option Failure :=
  match options.configPath with
  | .text _ => none
  | _ => some .pathWithoutValue

/-- Why options cannot be used, whatever the file and the environment say. -/
def objection? (options : Options) : Option Failure :=
  options.devicesObjection?.or (options.delayObjection?.or options.pathObjection?)

/-- The path of the configuration file. -/
def path? (options : Options) : Option String :=
  match options.configPath with
  | .text path => some path
  | _ => none

/-- The configuration of a file, the environment and the options (`resolve_config`). -/
def resolve (options : Options) (env : Config.Environment) : Act FileTree Config := do
  match options.objection? with
  | some e => Act.fail e
  | none =>
    let cfg ← Config.load env options.path? none
    Act.ofExcept
      ((Config.build options.toLayer cfg).mapError fun found => .misconfigured (.faults found))

end Options

end SerialTerminal.CommandLine
