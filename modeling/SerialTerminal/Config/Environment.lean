import SerialTerminal.Config.Layer

/-!
# Environment of a configuration

Five fields can be set by environment variables. The name of a variable is `SERIALDUMP_` and the
name of the field, in any case. A variable that is set to nothing counts as set. The line speed is
only read here; whether it is supported is seen later.

The variables are those of `SPEC_FULL.md` §10. How they are looked up is the rule of
pydantic-settings, and each is validated by the rules of `Config.Value`.
-/

namespace SerialTerminal.Config

/-- Names and values of environment variables. -/
abbrev Environment : Type := List (String × String)

/-- The overrides of an environment: for each field its value, if it is set. -/
structure Overrides where
  device : Option String
  baudrate : Option Int
  delayUs : Option Int
  logDir : Option String
  debug : Option Bool
deriving DecidableEq, Repr

namespace Overrides

/-- The value of the variable of a field. Of two spellings the later one counts. -/
def supplied? (env : Environment) (field : Field) : Option Value :=
  let wanted := "serialdump_" ++ field.name
  (env.reverse.find? fun entry => String.ofList (Text.lower entry.1.toList) = wanted).map
    fun entry => .text entry.2

/-- Reads a variable, if it is set. -/
def readVariable {α : Type} (read : Value → Except Fault α) (env : Environment) (field : Field) :
    Except Fault (Option α) :=
  match supplied? env field with
  | some value => (read value).map some
  | none => .ok none

/-- The overrides of an environment (`Settings`), or the fields at fault. -/
def ofEnvironment (env : Environment) : Except Faults Overrides :=
  let device := readVariable Value.readText env .device
  let baudrate := readVariable Value.readInt env .baudrate
  let delayUs := readVariable Value.readDelay env .delayUs
  let logDir := readVariable Value.readText env .logDir
  let debug := readVariable Value.readBool env .debug
  match device, baudrate, delayUs, logDir, debug with
  | .ok device, .ok baudrate, .ok delayUs, .ok logDir, .ok debug =>
    .ok { device, baudrate, delayUs, logDir, debug }
  | device, baudrate, delayUs, logDir, debug =>
    .error (faultOf .device device ++ faultOf .baudrate baudrate ++ faultOf .delayUs delayUs
      ++ faultOf .logDir logDir ++ faultOf .debug debug)

/-- The overrides as a layer that supplies the fields that are set (`Settings.overrides`). -/
def toLayer (overrides : Overrides) : Layer :=
  .ofFields
    ((overrides.device.map fun s => (Field.device, Value.text s)).toList
      ++ (overrides.baudrate.map fun n => (Field.baudrate, Value.int n)).toList
      ++ (overrides.delayUs.map fun n => (Field.delayUs, Value.int n)).toList
      ++ (overrides.logDir.map fun s => (Field.logDir, Value.text s)).toList
      ++ (overrides.debug.map fun b => (Field.debug, Value.bool b)).toList)

end Overrides

end SerialTerminal.Config
