import SerialTerminal.Proofs.CommandLine.Parsing
import SerialTerminal.Proofs.Config.Sources

/-!
# Precedence

A configuration comes from a command line, the environment and a file, and from default values where
none of them says anything. All that is supplied has to be valid, also what is hidden by a higher
source; then each field keeps what it reads of the highest value that is supplied for it
(`resolve_precedence`).

What is wrong is told as a problem of the configuration, with one exception: a delay whose value was
dropped is compared with zero before anyone looks at its type (`resolve_dropped_delay`).
-/

namespace SerialTerminal.CommandLine

open Config (Environment Field Layer Value overlay fileLayer)

private theorem get?_ofFields_toList (o : Option Value) (field wanted : Field) :
    (Layer.ofFields (o.map fun v => (field, v)).toList).get? wanted =
      if field = wanted then o else none := by
  rw [Layer.get?_ofFields_toList o fun v => v, Option.map_id']

namespace Options

/-- The delay that a command line supplies is the one that was asked for. -/
theorem get?_toLayer_delayUs {options : Options} (h : Formed options) :
    options.toLayer.get? .delayUs = options.delay := by
  have hdisplay : options.display.get? .delayUs = none := by
    cases hv : options.display.get? .delayUs with
    | none => rfl
    | some v => exact absurd (h.display _ v hv) (by decide)
  have hdebug : (Layer.ofFields
      (if options.debug then [(Field.debug, Value.bool true)] else [])).get? .delayUs = none := by
    split <;> rfl
  have hdevice := Layer.get?_ofFields_toList options.devices.head? Value.text .device .delayUs
  rw [toLayer, Layer.get?_update, hdisplay, Option.none_or]
  simp only [Layer.ofFields_append, Layer.get?_update, hdebug, hdevice, get?_ofFields_toList]
  simp

/-- A delay that is objected to cannot be read. -/
theorem not_accepts_of_delayObjection? {options : Options} {e : Failure} (h : Formed options)
    (ho : options.delayObjection? = some e) :
    ∃ v, options.delay = some v ∧ ¬ Field.delayUs.Accepts v := by
  rw [delayObjection?] at ho
  cases hd : options.delay with
  | none =>
    rw [hd] at ho
    cases ho
  | some v =>
    refine ⟨v, rfl, ?_⟩
    rintro ⟨w, hw⟩
    obtain ⟨n, hn, _⟩ := exists_ok_of_map hw
    rcases h.delay v hd with rfl | ⟨m, rfl⟩
    · cases hn
    · by_cases hm : 0 ≤ m
      · simp only [hd, if_neg (Int.not_lt.mpr hm)] at ho
        cases ho
      · have hr : (Value.int m).readDelay = .error .negative := if_neg hm
        rw [hr] at hn
        cases hn

/-- Which failure an objection to the delay is. -/
theorem of_delayObjection? {options : Options} {e : Failure} (h : Formed options)
    (ho : options.delayObjection? = some e) :
    if options.delay = some .composite then e = .delayWithoutValue
    else ∃ problem, e = .misconfigured problem := by
  rw [delayObjection?] at ho
  cases hd : options.delay with
  | none =>
    rw [hd] at ho
    cases ho
  | some v =>
    rw [hd] at ho
    rcases h.delay v hd with rfl | ⟨n, rfl⟩
    · rw [if_pos rfl]
      exact (Option.some.inj ho).symm
    · rw [if_neg (by simp)]
      simp only at ho
      split at ho
      · exact ⟨_, (Option.some.inj ho).symm⟩
      · cases ho

end Options

section Resolution

variable {arguments : List String} {options : Options} {path : String} {tree : FileTree}
  {file : Layer} {env : Environment}

/-- With one device at most and a path, only the delay may be objected to. -/
theorem objection?_eq (hd : options.devices.length ≤ 1)
    (hp : options.configPath = .text path) : options.objection? = options.delayObjection? := by
  rw [Options.objection?, Options.devicesObjection?, if_neg (by omega), Option.none_or,
    Options.pathObjection?, hp]
  cases options.delayObjection? <;> rfl

/-- Options that are objected to lead nowhere. -/
theorem outcome_of_objection {e : Failure} (ho : options.objection? = some e) :
    ((options.resolve env).run tree).outcome = .error e := by
  rw [Options.resolve, ho]
  rfl

/-- Options whose file has no layer fail for that. -/
theorem outcome_of_fileLayer_error {e : Failure} (ho : options.objection? = none)
    (hp : options.configPath = .text path) (hf : fileLayer tree path = .error e) :
    ((options.resolve env).run tree).outcome = .error e := by
  have hpath : options.path? = some path := by rw [Options.path?, hp]
  simp only [Options.resolve, ho, hpath]
  rw [Act.run_bind_of_error _ (Config.run_load_of_error hf env)]

/-- Options whose file and environment are at fault fail for that. -/
theorem outcome_of_error {found : Config.Faults} (ho : options.objection? = none)
    (hp : options.configPath = .text path) (hf : fileLayer tree path = .ok file)
    (hu : Config.underEnvironment file env = .error found) :
    ((options.resolve env).run tree).outcome = .error (.misconfigured (.faults found)) := by
  obtain ⟨es, hl⟩ := Config.outcome_load hf env
  have hpath : options.path? = some path := by rw [Options.path?, hp]
  rw [hu] at hl
  simp only [Options.resolve, ho, hpath]
  rw [Act.run_bind_of_error _ hl]

/-- The options are on top of what the file and the environment lead to. -/
theorem outcome_of_ok {base : Config} (ho : options.objection? = none)
    (hp : options.configPath = .text path) (hf : fileLayer tree path = .ok file)
    (hu : Config.underEnvironment file env = .ok base) :
    ((options.resolve env).run tree).outcome =
      (Config.build options.toLayer base).mapError fun found => .misconfigured (.faults found) := by
  obtain ⟨es, hl⟩ := Config.outcome_load hf env
  have hpath : options.path? = some path := by rw [Options.path?, hp]
  rw [hu] at hl
  simp only [Options.resolve, ho, hpath]
  rw [Act.run_bind_of_ok _ hl, Act.run_ofExcept]

/-- What may be supplied for fields, from the highest source to the lowest. -/
def sources (options : Options) (env : Environment) (file : Layer) :
    List (Field → Option Value) :=
  [options.toLayer.get?, Config.Environment.get? env, file.get?]

/-- Holds if all that is supplied is valid for its field, also where a higher source hides it. -/
def AllAccepted (options : Options) (env : Environment) (file : Layer) : Prop :=
  ∀ source ∈ sources options env file, ∀ (field : Field) (v : Value),
    source field = some v → field.Accepts v

/-- The values that count: those of the command line over those of the environment over those of
the file over the default ones. -/
def effective (options : Options) (env : Environment) (file : Layer) : Field → Value :=
  (sources options env file).foldr overlay (Config.get {})

/-- The sources one by one. -/
theorem allAccepted_iff : AllAccepted options env file ↔
    (∀ field v, options.toLayer.get? field = some v → field.Accepts v) ∧
      (∀ field v, Config.Environment.get? env field = some v → field.Accepts v) ∧
        ∀ field v, file.get? field = some v → field.Accepts v := by
  simp only [AllAccepted, sources, List.forall_mem_cons, List.not_mem_nil, false_imp_iff,
    forall_const, and_true]

/-- Options that are not objected to lead to a configuration just if all that is supplied is
valid. -/
theorem exists_resolve_iff (ho : options.objection? = none) (hp : options.configPath = .text path)
    (hf : fileLayer tree path = .ok file) :
    (∃ cfg, ((options.resolve env).run tree).outcome = .ok cfg) ↔ AllAccepted options env file := by
  rw [allAccepted_iff, and_comm, and_comm (b := ∀ field v, file.get? field = some v → _),
    ← Config.exists_underEnvironment_iff]
  cases hu : Config.underEnvironment file env with
  | error found =>
    rw [outcome_of_error ho hp hf hu]
    simp
  | ok base =>
    have hbase := (Config.readFrom_underEnvironment hu).valid
    rw [outcome_of_ok ho hp hf hu, ← Config.exists_build_iff hbase]
    simp [mapError_eq_ok_iff]

/-- Their configuration keeps what its fields read of the values that count. -/
theorem readFrom_of_resolve {cfg : Config} (ho : options.objection? = none)
    (hp : options.configPath = .text path) (hf : fileLayer tree path = .ok file)
    (h : ((options.resolve env).run tree).outcome = .ok cfg) :
    cfg.ReadFrom (effective options env file) := by
  cases hu : Config.underEnvironment file env with
  | error found =>
    rw [outcome_of_error ho hp hf hu] at h
    cases h
  | ok base =>
    rw [outcome_of_ok ho hp hf hu, mapError_eq_ok_iff] at h
    exact (Config.readFrom_underEnvironment hu).build h

private theorem not_allAccepted_of_objection {e : Failure} (h : Formed options)
    (ho : options.delayObjection? = some e) : ¬ AllAccepted options env file := by
  obtain ⟨v, hv, hn⟩ := Options.not_accepts_of_delayObjection? h ho
  rw [← Options.get?_toLayer_delayUs h] at hv
  intro ha
  exact hn ((allAccepted_iff.mp ha).1 _ v hv)

/-- What options come to: how it is decided whether they lead to a configuration, what it keeps, and
why there is none. -/
structure Precedence (options : Options) (env : Environment) (file : Layer)
    (outcome : Except Failure Config) : Prop where
  /-- There is a configuration just if all that is supplied is valid. -/
  exists_iff : (∃ cfg, outcome = .ok cfg) ↔ AllAccepted options env file
  /-- It keeps for each field what the field reads of the highest value. -/
  readFrom : ∀ cfg, outcome = .ok cfg → cfg.ReadFrom (effective options env file)
  /-- Otherwise the configuration is at fault, unless the value of the delay was dropped. -/
  failure : ∀ e, outcome = .error e →
    if options.delay = some .composite then e = .delayWithoutValue
    else ∃ problem, e = .misconfigured problem

private theorem precedence_error {e : Failure} (hn : ¬ AllAccepted options env file)
    (he : if options.delay = some .composite then e = .delayWithoutValue
      else ∃ problem, e = .misconfigured problem) :
    Precedence options env file (.error e) where
  exists_iff := ⟨fun ⟨_, h⟩ => (by cases h), fun ha => absurd ha hn⟩
  readFrom _ h := by cases h
  failure e' h := by rwa [← Except.error.inj h]

private theorem precedence_ok {cfg : Config} (ha : AllAccepted options env file)
    (hr : cfg.ReadFrom (effective options env file)) :
    Precedence options env file (.ok cfg) where
  exists_iff := ⟨fun _ => ha, fun _ => ⟨cfg, rfl⟩⟩
  readFrom cfg' h := by rwa [← Except.ok.inj h]
  failure _ h := by cases h

/-- With one device at most and a file that can be read, the command line comes before the
environment, the environment before the file and the file before the default values. -/
theorem resolve_precedence (hparse : parse arguments = .ok options)
    (hdevices : options.devices.length ≤ 1) (hpath : options.configPath = .text path)
    (hfile : fileLayer tree path = .ok file) (env : Environment) :
    Precedence options env file ((options.resolve env).run tree).outcome := by
  have hformed := formed_of_parse hparse
  have hobjection := objection?_eq hdevices hpath
  cases ho : options.delayObjection? with
  | some e =>
    rw [ho] at hobjection
    rw [outcome_of_objection hobjection]
    exact precedence_error (not_allAccepted_of_objection hformed ho)
      (Options.of_delayObjection? hformed ho)
  | none =>
    rw [ho] at hobjection
    have hdelay : options.delay ≠ some .composite := by
      intro hd
      rw [Options.delayObjection?, hd] at ho
      cases ho
    have misconfigured (found : Config.Faults) (hn : ¬ AllAccepted options env file) :
        Precedence options env file (.error (.misconfigured (.faults found))) := by
      refine precedence_error hn ?_
      rw [if_neg hdelay]
      exact ⟨_, rfl⟩
    cases hu : Config.underEnvironment file env with
    | error found =>
      rw [outcome_of_error hobjection hpath hfile hu]
      refine misconfigured found fun ha => ?_
      obtain ⟨_, henv, hlayer⟩ := allAccepted_iff.mp ha
      obtain ⟨base, hb⟩ := Config.exists_underEnvironment_iff.mpr ⟨hlayer, henv⟩
      rw [hu] at hb
      cases hb
    | ok base =>
      have hbase := Config.readFrom_underEnvironment hu
      have hbuild : (∃ cfg, Config.build options.toLayer base = .ok cfg) ↔ _ :=
        Config.exists_build_iff hbase.valid
      rw [outcome_of_ok hobjection hpath hfile hu]
      cases hb : Config.build options.toLayer base with
      | error found =>
        refine misconfigured found fun ha => ?_
        obtain ⟨cfg, hc⟩ := hbuild.mpr (allAccepted_iff.mp ha).1
        rw [hb] at hc
        cases hc
      | ok cfg =>
        obtain ⟨hlayer, henv⟩ := Config.exists_underEnvironment_iff.mp ⟨base, hu⟩
        exact precedence_ok (allAccepted_iff.mpr ⟨hbuild.mp ⟨cfg, hb⟩, henv, hlayer⟩)
          (hbase.build hb)

end Resolution

/-- A result that ended well is known by its value. -/
theorem eq_ok_of_toOption {ε α : Type} {e : Except ε α} {a : α}
    (h : e.toOption = some a) : e = .ok a := by
  cases e with
  | error fault => cases h
  | ok b => exact congrArg _ (Option.some.inj h)

/-- A delay of zero on the command line hides those of the environment and of the file, and the line
speed of the environment hides that of the file. -/
theorem resolve_precedence_hidden_values :
    let options : Options := { delay := some (.int 0), configPath := .text "s" }
    let env : Environment := [("SERIALDUMP_DELAY_US", "7"), ("SERIALDUMP_BAUDRATE", "9600")]
    let tree : FileTree := ⟨[], [([['s']], .file "[delay] = 9\n[baudrate] = 19200".toUTF8.toList)]⟩
    let file : Layer := .ofFields [(.delayUs, .int 9), (.baudrate, .int 19200)]
    let outcome := ((options.resolve env).run tree).outcome
    (parse ["-d0", "-cs"] = .ok options ∧ options.devices.length ≤ 1 ∧
        options.configPath = .text "s" ∧ fileLayer tree "s" = .ok file) ∧
      Precedence options env file outcome ∧ outcome = .ok { delayUs := 0, baudrate := 9600 } := by
  have hparse : parse ["-d0", "-cs"] =
      .ok { delay := some (.int 0), configPath := .text "s" } := rfl
  have hfile : fileLayer ⟨[], [([['s']], .file "[delay] = 9\n[baudrate] = 19200".toUTF8.toList)]⟩
      "s" = .ok (.ofFields [(.delayUs, .int 9), (.baudrate, .int 19200)]) :=
    eq_ok_of_toOption (by decide +kernel)
  refine ⟨⟨hparse, by decide, rfl, hfile⟩, resolve_precedence hparse (by decide) rfl hfile _, ?_⟩
  exact eq_ok_of_toOption (by decide +kernel)

/-- The value of a delay is dropped if it is an end mark. What comes of it is no problem of the
configuration. -/
theorem resolve_dropped_delay :
    let options : Options := { delay := some .composite }
    (parse ["-d--"] = .ok options ∧ options.devices.length ≤ 1 ∧
        fileLayer ⟨[], []⟩ "serialdump.cfg" = .ok .empty) ∧
      ((options.resolve []).run ⟨[], []⟩).outcome = .error .delayWithoutValue ∧
        Failure.delayWithoutValue.kind ≠ .configuration :=
  ⟨⟨rfl, by decide, rfl⟩, rfl, by decide⟩

end SerialTerminal.CommandLine
