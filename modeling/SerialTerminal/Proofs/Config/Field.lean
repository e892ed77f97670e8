import SerialTerminal.Config.Layer
import SerialTerminal.Proofs.Config.Validation

/-!
# Fields and layers

A configuration keeps one value for each field, and every field reads values in a way of its own.
`Field.read` puts what it makes of a value into the form in which a configuration keeps it. With it,
validation says one thing for all fields: a configuration comes about just if each field can read
its value, and it keeps what they read (`validate_eq_ok_iff`).

On top of a configuration a layer counts only by what its fields read (`build_eq_ok_iff`).
-/

namespace SerialTerminal.Config

/-- What may be said instead of a time format. -/
def ofTimeFormat : Option String → Value
  | some format => .text format
  | none => .null

/-- The value that a configuration keeps for a field. -/
def get (cfg : Config) : Field → Value
  | .device => .text cfg.device
  | .baudrate => .int cfg.baudrate
  | .mode => .text cfg.mode.name
  | .delayUs => .int cfg.delayUs
  | .timeFormat => ofTimeFormat cfg.timeFormat
  | .startTime => .bool cfg.startTime
  | .logDir => .text cfg.logDir
  | .debug => .bool cfg.debug

namespace Field

/-- What a field makes of a value, in the form in which a configuration keeps it. -/
def read : Field → Value → Except Fault Value
  | .device, v => v.readText.map .text
  | .baudrate, v => v.readBaudrate.map .int
  | .mode, v => v.readMode.map fun mode => .text mode.name
  | .delayUs, v => v.readDelay.map .int
  | .timeFormat, v => v.readOptionalText.map ofTimeFormat
  | .startTime, v => v.readBool.map .bool
  | .logDir, v => v.readText.map .text
  | .debug, v => v.readBool.map .bool

/-- Holds of the values that are valid for a field. -/
def Accepts (field : Field) (v : Value) : Prop := ∃ w, field.read v = .ok w

/-- Fields with one name are one field. -/
theorem name_injective : Function.Injective name := by
  intro a b h
  cases a <;> cases b <;> first | rfl | exact absurd h (by decide)

end Field

/-- A mode is known by its name. -/
theorem mode_name_injective : Function.Injective DisplayMode.name := by
  intro a b h
  have hn := DisplayMode.ofName?_name a
  rw [h, DisplayMode.ofName?_name] at hn
  exact (Option.some.inj hn).symm

/-- What is said instead of a time format is known by it. -/
theorem ofTimeFormat_injective : Function.Injective ofTimeFormat := by
  intro a b h
  cases a <;> cases b <;> first | rfl | cases h
  rfl

/-- A configuration is what it keeps for its fields. -/
theorem get_injective {cfg cfg' : Config} (h : ∀ field, cfg.get field = cfg'.get field) :
    cfg = cfg' := by
  rcases cfg with ⟨device, baudrate, mode, delayUs, timeFormat, startTime, logDir, debug⟩
  rcases cfg' with ⟨device', baudrate', mode', delayUs', timeFormat', startTime', logDir', debug'⟩
  obtain rfl : device = device' := Value.text.inj (h .device)
  obtain rfl : baudrate = baudrate' := Value.int.inj (h .baudrate)
  obtain rfl : mode = mode' := mode_name_injective (Value.text.inj (h .mode))
  obtain rfl : delayUs = delayUs' := Value.int.inj (h .delayUs)
  obtain rfl : timeFormat = timeFormat' := ofTimeFormat_injective (h .timeFormat)
  obtain rfl : startTime = startTime' := Value.bool.inj (h .startTime)
  obtain rfl : logDir = logDir' := Value.text.inj (h .logDir)
  obtain rfl : debug = debug' := Value.bool.inj (h .debug)
  rfl

/-- Holds of a configuration that keeps what its fields read of some values. -/
def ReadFrom (cfg : Config) (values : Field → Value) : Prop :=
  ∀ field : Field, field.read (values field) = .ok (cfg.get field)

namespace Layer

/-- The upper layer comes first for each field. -/
theorem get?_update (lower upper : Layer) (field : Field) :
    (lower.update upper).get? field = (upper.get? field).or (lower.get? field) :=
  find?_update lower upper field.name

/-- A value that is set is supplied. -/
theorem get?_set_self (layer : Layer) (field : Field) (v : Value) :
    (layer.set field v).get? field = some v := by
  rw [get?, find?_set, if_pos rfl]

/-- The other fields keep theirs. -/
theorem get?_set_of_ne (layer : Layer) {field wanted : Field} (h : field ≠ wanted) (v : Value) :
    (layer.set field v).get? wanted = layer.get? wanted := by
  rw [get?, find?_set, if_neg (Field.name_injective.ne h), get?]

/-- A value that may be supplied for one field. -/
theorem get?_ofFields_toList {α : Type} (o : Option α) (f : α → Value) (field wanted : Field) :
    (ofFields (o.map fun a => (field, f a)).toList).get? wanted =
      if field = wanted then o.map f else none := by
  have hn : field.name = wanted.name ↔ field = wanted := Field.name_injective.eq_iff
  cases o with
  | none => rw [Option.map_none, Option.map_none, ite_self]; rfl
  | some a =>
    by_cases h : field = wanted
    · simp [get?, find?, ofFields, h]
    · simp [get?, find?, ofFields, hn, h]

/-- What fields supply is among them. -/
theorem mem_of_get?_ofFields {entries : List (Field × Value)} {field : Field} {v : Value}
    (h : (ofFields entries).get? field = some v) : (field, v) ∈ entries := by
  obtain ⟨entry, he, rfl⟩ := Option.map_eq_some_iff.mp h
  have hname : entry.1 = field.name := by simpa using List.find?_some he
  obtain ⟨source, hs, rfl⟩ := List.mem_map.mp (List.mem_reverse.mp (List.mem_of_find?_eq_some he))
  rwa [← Field.name_injective hname]

/-- Fields in front of others are a layer below theirs. -/
theorem ofFields_append (lower upper : List (Field × Value)) :
    ofFields (lower ++ upper) = (ofFields lower).update (ofFields upper) := by
  rw [ofFields, List.map_append]
  rfl

end Layer

/-- A configuration as a layer supplies what it keeps. -/
theorem get?_toLayer (cfg : Config) (field : Field) :
    cfg.toLayer.get? field = some (cfg.get field) := by
  cases field
  all_goals
    simp only [Layer.get?, Layer.find?, toLayer, Layer.ofFields, Field.name, get]
    rfl

private theorem exists_validate {layer : Layer}
    (h : ∀ field : Field, field.Accepts (valueOf layer field)) :
    ∃ cfg, validate layer = .ok cfg := by
  obtain ⟨_, hdevice⟩ := h .device
  obtain ⟨_, hbaudrate⟩ := h .baudrate
  obtain ⟨_, hmode⟩ := h .mode
  obtain ⟨_, hdelayUs⟩ := h .delayUs
  obtain ⟨_, htimeFormat⟩ := h .timeFormat
  obtain ⟨_, hstartTime⟩ := h .startTime
  obtain ⟨_, hlogDir⟩ := h .logDir
  obtain ⟨_, hdebug⟩ := h .debug
  obtain ⟨device, hdevice, _⟩ := exists_ok_of_map hdevice
  obtain ⟨baudrate, hbaudrate, _⟩ := exists_ok_of_map hbaudrate
  obtain ⟨mode, hmode, _⟩ := exists_ok_of_map hmode
  obtain ⟨delayUs, hdelayUs, _⟩ := exists_ok_of_map hdelayUs
  obtain ⟨timeFormat, htimeFormat, _⟩ := exists_ok_of_map htimeFormat
  obtain ⟨startTime, hstartTime, _⟩ := exists_ok_of_map hstartTime
  obtain ⟨logDir, hlogDir, _⟩ := exists_ok_of_map hlogDir
  obtain ⟨debug, hdebug, _⟩ := exists_ok_of_map hdebug
  refine ⟨⟨device, baudrate, mode, delayUs, timeFormat, startTime, logDir, debug⟩, ?_⟩
  rw [validate, hdevice, hbaudrate, hmode, hdelayUs, htimeFormat, hstartTime, hlogDir, hdebug]

private theorem readFrom_of_validate {layer : Layer} {cfg : Config}
    (h : validate layer = .ok cfg) : cfg.ReadFrom (valueOf layer) := by
  intro field
  simp only [validate] at h
  split at h
  · next hdevice hbaudrate hmode hdelayUs htimeFormat hstartTime hlogDir hdebug =>
    obtain rfl := Except.ok.inj h
    cases field with
    | device => rw [Field.read, hdevice]; rfl
    | baudrate => rw [Field.read, hbaudrate]; rfl
    | mode => rw [Field.read, hmode]; rfl
    | delayUs => rw [Field.read, hdelayUs]; rfl
    | timeFormat => rw [Field.read, htimeFormat]; rfl
    | startTime => rw [Field.read, hstartTime]; rfl
    | logDir => rw [Field.read, hlogDir]; rfl
    | debug => rw [Field.read, hdebug]; rfl
  · cases h

/-- A configuration comes about if each field can read its value, and keeps what they read. -/
theorem validate_eq_ok_iff {layer : Layer} {cfg : Config} :
    validate layer = .ok cfg ↔ cfg.ReadFrom (valueOf layer) := by
  constructor
  · exact readFrom_of_validate
  · intro h
    obtain ⟨cfg', h'⟩ := exists_validate fun field => ⟨_, h field⟩
    have hget (field : Field) : cfg'.get field = cfg.get field :=
      Except.ok.inj ((readFrom_of_validate h' field).symm.trans (h field))
    rw [h', get_injective hget]

/-- The faults of values, in the order of the fields. -/
def faultsIn (values : Field → Value) : Faults :=
  Field.all.flatMap fun field => faultOf field (field.read (values field))

private theorem faultOf_map {α β : Type} (field : Field) (f : α → β) (e : Except Fault α) :
    faultOf field (e.map f) = faultOf field e := by
  cases e <;> rfl

/-- There are none if each field can read its value. -/
theorem faultsIn_eq_nil_iff {values : Field → Value} :
    faultsIn values = [] ↔ ∀ field : Field, field.Accepts (values field) := by
  have hall (field : Field) : field ∈ Field.all := by cases field <;> decide
  rw [faultsIn, List.flatMap_eq_nil_iff]
  constructor
  · intro h field
    have hf := h field (hall field)
    cases hr : field.read (values field) with
    | ok w => exact ⟨w, hr⟩
    | error fault =>
      rw [hr] at hf
      cases hf
  · intro h field _
    obtain ⟨w, hw⟩ := h field
    rw [hw]
    rfl

/-- Values at which the fields find the same faults. -/
theorem faultsIn_congr {values values' : Field → Value}
    (h : ∀ field, faultOf field (field.read (values field)) =
      faultOf field (field.read (values' field))) : faultsIn values = faultsIn values' := by
  rw [faultsIn, faultsIn, funext h]

private theorem eq_faultsIn_of_validate {layer : Layer} {found : Faults}
    (h : validate layer = .error found) : found = faultsIn (valueOf layer) := by
  simp only [validate] at h
  split at h
  · cases h
  · rw [← Except.error.inj h]
    simp only [faultsIn, Field.all, List.flatMap_cons, List.flatMap_nil, Field.read, faultOf_map,
      List.append_nil, List.append_assoc]

/-- Where no configuration comes about, all faults are found. -/
theorem validate_eq_error_iff {layer : Layer} {found : Faults} :
    validate layer = .error found ↔ found = faultsIn (valueOf layer) ∧ found ≠ [] := by
  constructor
  · intro h
    have hf := eq_faultsIn_of_validate h
    refine ⟨hf, ?_⟩
    rintro rfl
    obtain ⟨cfg, hc⟩ := exists_validate (faultsIn_eq_nil_iff.mp hf.symm)
    rw [h] at hc
    cases hc
  · rintro ⟨hf, hne⟩
    cases hv : validate layer with
    | error found' => rw [eq_faultsIn_of_validate hv, hf]
    | ok cfg =>
      refine absurd (hf.trans (faultsIn_eq_nil_iff.mpr fun field => ?_)) hne
      exact ⟨_, readFrom_of_validate hv field⟩

/-- A line speed that was read is supported. -/
theorem Value.mem_supportedBaudrates {v : Value} {n : Int} (h : v.readBaudrate = .ok n) :
    n ∈ supportedBaudrates := by
  obtain ⟨m, _, hm⟩ := exists_ok_of_bind h
  have hchecked : Validation.checked (· ∈ supportedBaudrates) .unsupportedBaudrate m = .ok n := hm
  exact (Validation.of_checked hchecked).2

/-- A delay that was read is not negative. -/
theorem Value.nonneg_of_readDelay {v : Value} {n : Int} (h : v.readDelay = .ok n) : 0 ≤ n := by
  obtain ⟨m, _, hm⟩ := exists_ok_of_bind h
  have hchecked : Validation.checked (0 ≤ ·) (fun _ => .negative) m = .ok n := hm
  exact (Validation.of_checked hchecked).2

namespace Field

/-- How a field validates its values. -/
def validation : Field → Validation Value Fault
  | .device | .logDir => .text
  | .baudrate => .integer (· ∈ supportedBaudrates) .unsupportedBaudrate
  | .mode => .mode
  | .delayUs => .integer (0 ≤ ·) fun _ => .negative
  | .timeFormat =>
    .ofKept Value.readOptionalText ofTimeFormat fun {_ format} _ => by cases format <;> rfl
  | .startTime | .debug => .boolean

/-- It reads them as the field does. -/
theorem read_eq (field : Field) : field.read = field.validation.read := by
  cases field <;> rfl

/-- What a field reads of a value is valid for it and stays as it is. -/
theorem read_idem {field : Field} {v w : Value} (h : field.read v = .ok w) :
    field.read w = .ok w := by
  rw [read_eq] at h ⊢
  exact field.validation.read_idem h

/-- What is supplied on top of a value that a field has read is read as on top of what that came
from. -/
theorem read_layered {field : Field} {lower : Option Value} {base mid : Value}
    (h : field.read (lower.getD base) = .ok mid) (upper : Option Value) :
    field.read (upper.getD mid) = field.read ((upper.or lower).getD base) := by
  rw [read_eq] at h ⊢
  exact field.validation.read_layered h upper

end Field

/-- A configuration may be used just if all its values are valid. -/
theorem valid_iff {cfg : Config} : cfg.Valid ↔ cfg.ReadFrom cfg.get := by
  constructor
  · rintro ⟨hbaudrate, hdelay⟩ field
    have hb : (Value.int cfg.baudrate).readBaudrate = .ok cfg.baudrate := if_pos hbaudrate
    have hd : (Value.int cfg.delayUs).readDelay = .ok cfg.delayUs := if_pos hdelay
    cases field with
    | device | startTime | logDir | debug => rfl
    | baudrate => rw [Field.read, get, hb]; rfl
    | mode => rw [Field.read, get, Value.readMode, DisplayMode.ofName?_name]; rfl
    | delayUs => rw [Field.read, get, hd]; rfl
    | timeFormat => rw [Field.read, get]; cases cfg.timeFormat <;> rfl
  · intro h
    obtain ⟨n, hn, hb⟩ := exists_ok_of_map (h .baudrate)
    obtain ⟨m, hm, hd⟩ := exists_ok_of_map (h .delayUs)
    obtain rfl : n = cfg.baudrate := Value.int.inj hb
    obtain rfl : m = cfg.delayUs := Value.int.inj hd
    exact ⟨Value.mem_supportedBaudrates hn, Value.nonneg_of_readDelay hm⟩

/-- A configuration that was read from values may be used. -/
theorem ReadFrom.valid {cfg : Config} {values : Field → Value} (h : cfg.ReadFrom values) :
    cfg.Valid :=
  valid_iff.mpr fun field => Field.read_idem (h field)

/-- The values that a source supplies, on top of others. -/
def overlay (source : Field → Option Value) (values : Field → Value) (field : Field) : Value :=
  (source field).getD (values field)

/-- A value that is supplied hides the one below it. -/
theorem overlay_of_eq_some {source : Field → Option Value} {field : Field} {v : Value}
    (h : source field = some v) (values : Field → Value) : overlay source values field = v := by
  rw [overlay, h, Option.getD_some]

/-- Where nothing is supplied the value below is seen. -/
theorem overlay_of_eq_none {source : Field → Option Value} {field : Field} (h : source field = none)
    (values : Field → Value) : overlay source values field = values field := by
  rw [overlay, h, Option.getD_none]

section Build

variable {layer : Layer} {base cfg : Config}

private theorem valueOf_update (layer : Layer) (base : Config) :
    valueOf (base.toLayer.update layer) = overlay layer.get? base.get := by
  funext field
  rw [valueOf, Layer.get?_update, get?_toLayer, overlay]
  cases layer.get? field <;> rfl

/-- A configuration under a layer keeps what the fields read of the layer, and its own values where
the layer supplies none. -/
theorem build_eq_ok_iff :
    build layer base = .ok cfg ↔ cfg.ReadFrom (overlay layer.get? base.get) := by
  rw [build, validate_eq_ok_iff, valueOf_update]

/-- Where no configuration comes about under a layer, all faults are found. -/
theorem build_eq_error_iff {found : Faults} :
    build layer base = .error found ↔
      found = faultsIn (overlay layer.get? base.get) ∧ found ≠ [] := by
  rw [build, validate_eq_error_iff, valueOf_update]

/-- Under a layer a configuration that was read from values is read from those of the layer on top
of its own. -/
theorem ReadFrom.build {values : Field → Value} (hb : base.ReadFrom values)
    (h : build layer base = .ok cfg) : cfg.ReadFrom (overlay layer.get? values) := by
  intro field
  have hvalues : field.read ((none : Option Value).getD (values field)) = .ok (base.get field) :=
    hb field
  have hlayered := Field.read_layered hvalues (layer.get? field)
  rw [Option.or_none] at hlayered
  rw [overlay, ← hlayered]
  exact build_eq_ok_iff.mp h field

/-- A configuration comes about under a layer if the values of the layer are valid. -/
theorem exists_build_iff (hb : base.Valid) :
    (∃ cfg, Config.build layer base = .ok cfg) ↔
      ∀ (field : Field) (v : Value), layer.get? field = some v → field.Accepts v := by
  constructor
  · rintro ⟨cfg, h⟩ field v hv
    have hf := build_eq_ok_iff.mp h field
    rw [overlay_of_eq_some hv] at hf
    exact ⟨_, hf⟩
  · intro h
    apply exists_validate
    intro field
    rw [valueOf_update]
    cases hv : layer.get? field with
    | none =>
      rw [overlay_of_eq_none hv]
      exact ⟨_, valid_iff.mp hb field⟩
    | some v =>
      rw [overlay_of_eq_some hv]
      exact h field v hv

/-- A layer that supplies nothing changes nothing. -/
theorem build_empty (hb : base.Valid) : Config.build .empty base = .ok base :=
  build_eq_ok_iff.mpr (valid_iff.mp hb)

end Build

end SerialTerminal.Config
