import SerialTerminal.Config.Value

/-!
# Layers of a configuration

A layer is what one source supplies: values by the names of fields. Layers are put on top of each
other, and a name that two layers supply has the value of the upper one. `Config.build` validates
what a configuration becomes under a layer; it reports every field that is at fault, in the order of
the fields.

The order of the sources is that of `SPEC_FULL.md` §10, the wording that of `build_config` there.
-/

namespace SerialTerminal.Config

/-- The fields of a configuration. -/
inductive Field where
  | device
  | baudrate
  | mode
  | delayUs
  | timeFormat
  | startTime
  | logDir
  | debug
deriving DecidableEq, Repr

/-- All fields, in order. -/
def Field.all : List Field :=
  [.device, .baudrate, .mode, .delayUs, .timeFormat, .startTime, .logDir, .debug]

/-- The name of a field. -/
def Field.name : Field → String
  | .device => "device"
  | .baudrate => "baudrate"
  | .mode => "mode"
  | .delayUs => "delay_us"
  | .timeFormat => "timeformat"
  | .startTime => "starttime"
  | .logDir => "logdir"
  | .debug => "debug"

/-- Values by name. Of two values with one name the later counts. -/
structure Layer where
  entries : List (String × Value)
deriving DecidableEq, Repr

namespace Layer

/-- The layer that supplies nothing. -/
def empty : Layer := ⟨[]⟩

/-- The layer of some fields. -/
def ofFields (entries : List (Field × Value)) : Layer :=
  ⟨entries.map fun (field, value) => (field.name, value)⟩

/-- The value of a name. -/
def find? (layer : Layer) (name : String) : Option Value :=
  (layer.entries.reverse.find? fun entry => entry.1 = name).map (·.2)

/-- The value of a field. -/
def get? (layer : Layer) (field : Field) : Option Value := layer.find? field.name

/-- A layer with one more value. -/
def set (layer : Layer) (field : Field) (value : Value) : Layer :=
  ⟨layer.entries ++ [(field.name, value)]⟩

/-- A layer with another on top. -/
def update (lower upper : Layer) : Layer := ⟨lower.entries ++ upper.entries⟩

@[simp] theorem find?_empty (name : String) : empty.find? name = none := rfl

/-- The upper layer comes first. -/
theorem find?_update (lower upper : Layer) (name : String) :
    (lower.update upper).find? name = (upper.find? name).or (lower.find? name) := by
  simp only [find?, update, List.reverse_append, List.find?_append]
  cases upper.entries.reverse.find? fun entry => decide (entry.1 = name) <;> simp

/-- The last value set counts. -/
theorem find?_set (layer : Layer) (field : Field) (value : Value) (name : String) :
    (layer.set field value).find? name =
      if field.name = name then some value else layer.find? name := by
  simp only [find?, set, List.reverse_append, List.reverse_singleton, List.singleton_append,
    List.find?_cons]
  by_cases h : field.name = name <;> simp [h]

end Layer

/-- A configuration as a layer that supplies every field. -/
def toLayer (cfg : Config) : Layer :=
  .ofFields
    [(.device, .text cfg.device),
     (.baudrate, .int cfg.baudrate),
     (.mode, .text cfg.mode.name),
     (.delayUs, .int cfg.delayUs),
     (.timeFormat, match cfg.timeFormat with
       | some format => .text format
       | none => .null),
     (.startTime, .bool cfg.startTime),
     (.logDir, .text cfg.logDir),
     (.debug, .bool cfg.debug)]

/-- Fields at fault, in order. -/
abbrev Faults : Type := List (Field × Fault)

/-- The wording of faults. -/
def describe (faults : Faults) : String :=
  String.intercalate "; " (faults.map fun (field, fault) => s!"{field.name}: {fault.message}")

/-- The fault of a field whose value was read, if there is one. -/
def faultOf {α : Type} (field : Field) : Except Fault α → Faults
  | .ok _ => []
  | .error fault => [(field, fault)]

/-- The value of a field, or null. -/
def valueOf (layer : Layer) (field : Field) : Value := (layer.get? field).getD .null

/-- The configuration that a layer with all fields describes. -/
def validate (layer : Layer) : Except Faults Config :=
  let device := (valueOf layer .device).readText
  let baudrate := (valueOf layer .baudrate).readBaudrate
  let mode := (valueOf layer .mode).readMode
  let delayUs := (valueOf layer .delayUs).readDelay
  let timeFormat := (valueOf layer .timeFormat).readOptionalText
  let startTime := (valueOf layer .startTime).readBool
  let logDir := (valueOf layer .logDir).readText
  let debug := (valueOf layer .debug).readBool
  match device, baudrate, mode, delayUs, timeFormat, startTime, logDir, debug with
  | .ok device, .ok baudrate, .ok mode, .ok delayUs, .ok timeFormat, .ok startTime, .ok logDir,
      .ok debug =>
    .ok { device, baudrate, mode, delayUs, timeFormat, startTime, logDir, debug }
  | device, baudrate, mode, delayUs, timeFormat, startTime, logDir, debug =>
    .error (faultOf .device device ++ faultOf .baudrate baudrate ++ faultOf .mode mode
      ++ faultOf .delayUs delayUs ++ faultOf .timeFormat timeFormat
      ++ faultOf .startTime startTime ++ faultOf .logDir logDir ++ faultOf .debug debug)

/-- A configuration under a layer (`build_config`). -/
def build (layer : Layer) (base : Config) : Except Faults Config :=
  validate (base.toLayer.update layer)

end SerialTerminal.Config
