import SerialTerminal.Proofs.CommandLine.DisplaySwitches
import SerialTerminal.Proofs.CommandLine.Precedence
import SerialTerminal.Proofs.Display.Stamps
import SerialTerminal.Terminal

/-!
# The last switch for a display mode

The last switch for a display mode decides. What earlier ones, or a file, say about the mode, the
format of stamps and the time that they count from is left in the configuration in part, but never
comes to light: the terminals of two configurations that agree in everything else do the same
(`last_display_decides`). A switch that sets stamps sets all that they show, and under the other
switches nothing looks at the stamp.

There is one exception. A format that was dropped leaves the one before it as it is, and that one
then shows (`dropped_format_shows_earlier`).
-/

namespace SerialTerminal.CommandLine

open Config (Environment Field Layer Value overlay fileLayer)

namespace Options

/-- Options without what the switches for display modes set. -/
def undisplayed (options : Options) : Options := { options with display := .empty }

@[simp] theorem objection?_undisplayed (options : Options) :
    options.undisplayed.objection? = options.objection? := rfl

@[simp] theorem configPath_undisplayed (options : Options) :
    options.undisplayed.configPath = options.configPath := rfl

variable {options : Options} {field : Field}

/-- Options that are not objected to have a path. -/
theorem exists_path (h : options.objection? = none) : ∃ path, options.configPath = .text path := by
  have hpath : options.pathObjection? = none :=
    (Option.or_eq_none_iff.mp (Option.or_eq_none_iff.mp h).2).2
  rw [pathObjection?] at hpath
  cases hp : options.configPath with
  | text path => exact ⟨path, rfl⟩
  | _ =>
    rw [hp] at hpath
    cases hpath

/-- What the switches for display modes set comes before the rest. -/
theorem get?_toLayer (options : Options) (field : Field) :
    options.toLayer.get? field =
      (options.display.get? field).or (options.undisplayed.toLayer.get? field) := by
  simp only [toLayer, Layer.get?_update, undisplayed]
  rfl

/-- The rest sets nothing of the display. -/
theorem get?_toLayer_of_mem (h : field ∈ displayFields) :
    options.toLayer.get? field = options.display.get? field := by
  have hrest : options.undisplayed.toLayer.get? field = none := by
    cases hv : options.undisplayed.toLayer.get? field with
    | none => rfl
    | some v =>
      rw [toLayer, Layer.get?_update] at hv
      have hm := Layer.mem_of_get?_ofFields hv
      have hne : .device ≠ field ∧ .baudrate ≠ field ∧ .delayUs ≠ field ∧ .logDir ≠ field ∧
          .debug ≠ field := by
        revert h
        cases field <;> decide
      simp [hne, hne.2.2.2.2.symm] at hm
  rw [get?_toLayer, hrest, Option.or_none]

/-- Other fields are set by the rest. -/
theorem get?_toLayer_of_not_mem (hd : OfDisplay options.display) (h : field ∉ displayFields) :
    options.toLayer.get? field = options.undisplayed.toLayer.get? field := by
  have hdisplay : options.display.get? field = none := by
    cases hv : options.display.get? field with
    | none => rfl
    | some v => exact absurd (hd field v hv) h
  rw [get?_toLayer, hdisplay, Option.none_or]

end Options

namespace ModeUse

/-- The mode that a use chooses. -/
def mode : ModeUse → DisplayMode
  | choice .hex => .hex
  | choice .decimal => .int
  | choice .slipAuto => .slipAuto
  | choice .slip => .slip
  | choice .slipHide => .slipHide
  | choice .stamped | choice .stampedSinceStart | format _ => .startDate

/-- What the stamps of a use show. Where it puts none, that makes no difference. -/
def stamp (start : Binary64) (zone : Calendar.Zone) : ModeUse → LineStamp
  | format text => .formatted (String.ofList text) zone
  | choice .stampedSinceStart => .sinceStart start
  | choice _ => .sinceEpoch

/-- The viewer that a use stands for. -/
def viewer (use : ModeUse) (clock : Clock) (output : Output) : Viewer :=
  ⟨⟨.ofMode use.mode, use.stamp clock.reading clock.zone⟩, clock.advance, output⟩

/-- Each use chooses a mode. -/
theorem get?_layer_mode (use : ModeUse) :
    use.layer.get? .mode = some (.text use.mode.name) := by
  cases use with
  | choice c => cases c <;> rfl
  | format text =>
    rw [layer, Options.formattedLayer]
    split
    · rfl
    · rw [Layer.get?_set_of_ne _ (by decide)]
      rfl

/-- A use that chooses another mode puts no stamps in front of lines. -/
theorem undated_of_ne {use : ModeUse} (h : use.mode ≠ .startDate) :
    (View.ofMode use.mode).Undated := by
  cases use with
  | choice c =>
    cases c with
    | stamped | stampedSinceStart => exact absurd rfl h
    | _ => trivial
  | format text => exact absurd rfl h

end ModeUse

/-- The viewer that a terminal starts with. -/
def viewerOf (cfg : Config) (clock : Clock) (output : Output) : Viewer :=
  .start cfg.mode cfg.timeFormat cfg.startTime clock output

/-- Holds of viewers that show all batches alike, and look at the clock as often. -/
structure ShowAlike (v w : Viewer) : Prop where
  outcome : ∀ batches, ((Act.forEach Viewer.feed batches).run v).outcome =
    ((Act.forEach Viewer.feed batches).run w).outcome
  events : ∀ batches, ((Act.forEach Viewer.feed batches).run v).events =
    ((Act.forEach Viewer.feed batches).run w).events
  clock : ∀ batches, ((Act.forEach Viewer.feed batches).run v).state.clock =
    ((Act.forEach Viewer.feed batches).run w).state.clock

/-- A viewer is like itself. -/
theorem ShowAlike.refl (v : Viewer) : ShowAlike v v := ⟨fun _ => rfl, fun _ => rfl, fun _ => rfl⟩

/-- Viewers that are like a third are alike. -/
theorem ShowAlike.trans_symm {v w u : Viewer} (hv : ShowAlike v u) (hw : ShowAlike w u) :
    ShowAlike v w where
  outcome batches := (hv.outcome batches).trans (hw.outcome batches).symm
  events batches := (hv.events batches).trans (hw.events batches).symm
  clock batches := (hv.clock batches).trans (hw.clock batches).symm

/-- Viewers that put no stamps in front of lines are alike if they differ in the stamp. -/
theorem showAlike_of_undated {v w : Viewer} (hv : v.Undated) (hw : w.Undated)
    (h : v.unstamped = w.unstamped) : ShowAlike v w := by
  have hcongr (batches : List (List UInt8)) :=
    (Act.blind_forEach Viewer.blind_feed batches).congr hv hw h
  refine ⟨fun batches => (hcongr batches).1, fun batches => (hcongr batches).2.1, ?_⟩
  intro batches
  have hclock := congrArg Viewer.clock (hcongr batches).2.2
  exact hclock

/-- Holds of configurations with which both directions of a terminal do the same. -/
structure Alike (cfg cfg' : Config) : Prop where
  /-- What is received is shown alike. -/
  viewer : ∀ clock output, ShowAlike (viewerOf cfg clock output) (viewerOf cfg' clock output)
  /-- What is typed is sent alike. -/
  transmitter : ∀ limit, Transmitter.create cfg.mode cfg.delayUs limit =
    Transmitter.create cfg'.mode cfg'.delayUs limit

section Resolved

variable {arguments : List String} {options : Options} {env : Environment} {file : Layer}
  {use : ModeUse} {cfg : Config} {field : Field} {v : Value}

/-- What the last use sets counts. -/
theorem effective_of_last (h : parse arguments = .ok options)
    (hlast : (modeUses arguments).getLast? = some use) (hv : use.layer.get? field = some v) :
    effective options env file field = v := by
  obtain ⟨earlier, hdisplay⟩ := exists_display_eq_update h hlast
  refine Config.overlay_of_eq_some ?_ _
  rw [Options.get?_toLayer, hdisplay, Layer.get?_update, hv]
  rfl

/-- So it is what a configuration keeps. -/
theorem read_of_last (h : parse arguments = .ok options)
    (hlast : (modeUses arguments).getLast? = some use)
    (hcfg : cfg.ReadFrom (effective options env file)) (hv : use.layer.get? field = some v) :
    field.read v = .ok (cfg.get field) := by
  rw [← effective_of_last h hlast hv]
  exact hcfg field

/-- The last use chooses the mode. -/
theorem mode_of_last (h : parse arguments = .ok options)
    (hlast : (modeUses arguments).getLast? = some use)
    (hcfg : cfg.ReadFrom (effective options env file)) : cfg.mode = use.mode := by
  have hread := read_of_last h hlast hcfg use.get?_layer_mode
  rw [Field.read, Value.readMode, DisplayMode.ofName?_name] at hread
  exact (Config.mode_name_injective (Value.text.inj (Except.ok.inj hread))).symm

private theorem timeFormat_of_read {format : Option String}
    (h : Field.timeFormat.read (Config.ofTimeFormat format) = .ok (cfg.get .timeFormat)) :
    cfg.timeFormat = format := by
  have hread : Field.timeFormat.read (Config.ofTimeFormat format) =
      .ok (Config.ofTimeFormat format) := by cases format <;> rfl
  rw [hread] at h
  exact (Config.ofTimeFormat_injective (Except.ok.inj h)).symm

private theorem startTime_of_read {b : Bool}
    (h : Field.startTime.read (.bool b) = .ok (cfg.get .startTime)) : cfg.startTime = b :=
  (Value.bool.inj (Except.ok.inj h)).symm

/-- If it puts stamps in front of lines, it also says what they show, unless its format was
dropped. -/
theorem stampFor_of_last (h : parse arguments = .ok options)
    (hlast : (modeUses arguments).getLast? = some use) (hkept : use ≠ .format ['-', '-'])
    (hcfg : cfg.ReadFrom (effective options env file)) (hmode : use.mode = .startDate)
    (start : Binary64) (zone : Calendar.Zone) :
    Display.stampFor cfg.timeFormat cfg.startTime start zone = use.stamp start zone := by
  have hread (field : Field) (v : Value) (hv : use.layer.get? field = some v) :
      field.read v = .ok (cfg.get field) := read_of_last h hlast hcfg hv
  cases use with
  | choice c =>
    cases c with
    | stamped =>
      rw [timeFormat_of_read (hread .timeFormat (Config.ofTimeFormat none) rfl),
        startTime_of_read (hread .startTime (.bool false) rfl)]
      rfl
    | stampedSinceStart =>
      rw [timeFormat_of_read (hread .timeFormat (Config.ofTimeFormat none) rfl),
        startTime_of_read (hread .startTime (.bool true) rfl)]
      rfl
    | _ => cases hmode
  | format text =>
    have hv : (ModeUse.format text).layer.get? .timeFormat =
        some (Config.ofTimeFormat (some (String.ofList text))) := by
      rw [ModeUse.layer, Options.formattedLayer, if_neg fun ht => hkept (congrArg _ ht)]
      exact Layer.get?_set_self _ _ _
    rw [timeFormat_of_read (hread _ _ hv)]
    rfl

/-- The viewer of a configuration is like that of the last use. -/
theorem showAlike_of_last (h : parse arguments = .ok options)
    (hlast : (modeUses arguments).getLast? = some use) (hkept : use ≠ .format ['-', '-'])
    (hcfg : cfg.ReadFrom (effective options env file)) (clock : Clock) (output : Output) :
    ShowAlike (viewerOf cfg clock output) (use.viewer clock output) := by
  by_cases hmode : use.mode = .startDate
  · have hstamp := stampFor_of_last h hlast hkept hcfg hmode clock.reading clock.zone
    have hviewer : viewerOf cfg clock output = use.viewer clock output := by
      rw [viewerOf, Viewer.start, Display.create, hstamp, mode_of_last h hlast hcfg]
      rfl
    rw [hviewer]
    exact .refl _
  · have hundated := ModeUse.undated_of_ne hmode
    have hview : View.ofMode cfg.mode = View.ofMode use.mode := by rw [mode_of_last h hlast hcfg]
    refine showAlike_of_undated ?_ hundated ?_
    · change (View.ofMode cfg.mode).Undated
      rwa [hview]
    · change (⟨⟨View.ofMode cfg.mode, .sinceEpoch⟩, _, _⟩ : Viewer) = _
      rw [hview]
      rfl

end Resolved

section Pair

variable {arguments arguments' : List String} {options options' : Options} {env : Environment}
  {file file' : Layer} {use : ModeUse} {field : Field}

/-- Holds of layers that agree but for the display, about which both say valid things. -/
structure SameButDisplay (file file' : Layer) : Prop where
  /-- They supply the same for all other fields. -/
  agree : ∀ field, field ∉ displayFields → file.get? field = file'.get? field
  /-- What the first says about the display is valid. -/
  accepts : ∀ field ∈ displayFields, ∀ v, file.get? field = some v → field.Accepts v
  /-- So is what the second says. -/
  accepts' : ∀ field ∈ displayFields, ∀ v, file'.get? field = some v → field.Accepts v

/-- They do so in either order. -/
theorem SameButDisplay.symm (h : SameButDisplay file file') : SameButDisplay file' file :=
  ⟨fun field hf => (h.agree field hf).symm, h.accepts', h.accepts⟩

/-- What else counts is the same. -/
theorem effective_congr (h : parse arguments = .ok options) (h' : parse arguments' = .ok options')
    (hsame : options.undisplayed = options'.undisplayed) (hfile : SameButDisplay file file')
    (hf : field ∉ displayFields) :
    effective options env file field = effective options' env file' field := by
  have hd := (formed_of_parse h).display
  have hd' := (formed_of_parse h').display
  simp only [effective, sources, List.foldr_cons, List.foldr_nil, overlay, hfile.agree field hf,
    Options.get?_toLayer_of_not_mem hd hf, Options.get?_toLayer_of_not_mem hd' hf, hsame]

/-- If all that is supplied is valid on one side, it is on the other. -/
theorem AllAccepted.congr (h : parse arguments = .ok options)
    (h' : parse arguments' = .ok options') (hsame : options.undisplayed = options'.undisplayed)
    (hfile : SameButDisplay file file') (ha : AllAccepted options env file) :
    AllAccepted options' env file' := by
  obtain ⟨hoptions, henv, hlayer⟩ := allAccepted_iff.mp ha
  refine allAccepted_iff.mpr ⟨?_, henv, ?_⟩
  · intro field v hv
    by_cases hf : field ∈ displayFields
    · rw [Options.get?_toLayer_of_mem hf] at hv
      exact accepts_display h' field v hv
    · rw [Options.get?_toLayer_of_not_mem (formed_of_parse h').display hf, ← hsame,
        ← Options.get?_toLayer_of_not_mem (formed_of_parse h).display hf] at hv
      exact hoptions field v hv
  · intro field v hv
    by_cases hf : field ∈ displayFields
    · exact hfile.accepts' field hf v hv
    · rw [← hfile.agree field hf] at hv
      exact hlayer field v hv

/-- What two command lines come to: both lead to a configuration or none does, and with their
configurations a terminal does the same. -/
structure SameTerminal (outcome outcome' : Except Failure Config) : Prop where
  /-- What is said about the display does not decide whether there is a configuration. -/
  exists_iff : (∃ cfg, outcome = .ok cfg) ↔ ∃ cfg, outcome' = .ok cfg
  /-- It does not show in what the terminals do. -/
  alike : ∀ cfg cfg', outcome = .ok cfg → outcome' = .ok cfg' → Alike cfg cfg'

/-- Two command lines with the same last use of a switch for a display mode, which are the same in
all that has nothing to do with the display, make a terminal do the same. Their files may say other
things about the display. -/
theorem last_display_decides (h : parse arguments = .ok options)
    (h' : parse arguments' = .ok options') (hlast : (modeUses arguments).getLast? = some use)
    (hlast' : (modeUses arguments').getLast? = some use) (hkept : use ≠ .format ['-', '-'])
    (hsame : options.undisplayed = options'.undisplayed) {tree tree' : FileTree}
    (hfiles : ∀ path, options.configPath = .text path → ∃ file file',
      fileLayer tree path = .ok file ∧ fileLayer tree' path = .ok file' ∧
        SameButDisplay file file') (env : Environment) :
    SameTerminal ((options.resolve env).run tree).outcome
      ((options'.resolve env).run tree').outcome := by
  have hobjection : options.objection? = options'.objection? := by
    rw [← Options.objection?_undisplayed, hsame, Options.objection?_undisplayed]
  have hpaths : options.configPath = options'.configPath := by
    rw [← Options.configPath_undisplayed, hsame, Options.configPath_undisplayed]
  cases ho : options.objection? with
  | some e =>
    have ho' := hobjection.symm.trans ho
    rw [outcome_of_objection ho, outcome_of_objection ho']
    exact ⟨by simp, by simp⟩
  | none =>
    have ho' := hobjection.symm.trans ho
    obtain ⟨path, hp⟩ := Options.exists_path ho
    have hp' := hpaths.symm.trans hp
    obtain ⟨file, file', hf, hf', hfile⟩ := hfiles path hp
    refine ⟨?_, fun cfg cfg' hc hc' => ?_⟩
    · rw [exists_resolve_iff ho hp hf, exists_resolve_iff ho' hp' hf']
      exact ⟨.congr h h' hsame hfile, .congr h' h hsame.symm hfile.symm⟩
    · have hr := readFrom_of_resolve ho hp hf hc
      have hr' := readFrom_of_resolve ho' hp' hf' hc'
      have hdelay : cfg.delayUs = cfg'.delayUs := by
        have he : effective options env file .delayUs = effective options' env file' .delayUs :=
          effective_congr h h' hsame hfile (by decide)
        have hread := hr .delayUs
        rw [he, hr' .delayUs] at hread
        exact (Value.int.inj (Except.ok.inj hread)).symm
      refine ⟨fun clock output => ?_, fun limit => ?_⟩
      · exact (showAlike_of_last h hlast hkept hr clock output).trans_symm
          (showAlike_of_last h' hlast' hkept hr' clock output)
      · rw [hdelay, mode_of_last h hlast hr, mode_of_last h' hlast' hr']

end Pair

/-- Stamps that count from the start, behind a format on the command line and another in a file. -/
theorem last_display_decides_since_start :
    let use : ModeUse := .choice .stampedSinceStart
    let options : Options :=
      { display := withUses .empty [.format ['%', 'H'], .choice .stampedSinceStart] }
    let options' : Options := { display := withUses .empty [.choice .stampedSinceStart] }
    let file : Layer := .ofFields [(.mode, .text "hex"), (.timeFormat, .text "%S")]
    let tree : FileTree :=
      ⟨[], [(["serialdump.cfg".toList], .file "[mode]=hex\n[timeformat]=%S".toUTF8.toList)]⟩
    let tree' : FileTree := ⟨[], []⟩
    ((parse ["-T%H", "-t0"] = .ok options ∧ parse ["-t0"] = .ok options') ∧
        ((modeUses ["-T%H", "-t0"]).getLast? = some use ∧ (modeUses ["-t0"]).getLast? = some use) ∧
          use ≠ .format ['-', '-'] ∧ options.undisplayed = options'.undisplayed ∧
            fileLayer tree "serialdump.cfg" = .ok file ∧
              fileLayer tree' "serialdump.cfg" = .ok .empty ∧ SameButDisplay file .empty) ∧
      SameTerminal ((options.resolve []).run tree).outcome
        ((options'.resolve []).run tree').outcome := by
  intro use options options' file tree tree'
  have hparse : parse ["-T%H", "-t0"] = .ok options := rfl
  have hparse' : parse ["-t0"] = .ok options' := rfl
  have hlast : (modeUses ["-T%H", "-t0"]).getLast? = some use := rfl
  have hlast' : (modeUses ["-t0"]).getLast? = some use := rfl
  have hfile : fileLayer tree "serialdump.cfg" = .ok file :=
    eq_ok_of_toOption (by decide +kernel)
  have hsame : SameButDisplay file .empty := by
    refine ⟨?_, ?_, fun _ _ _ h => by cases h⟩
    · intro field hf
      cases field <;> first | rfl | exact absurd hf (by decide)
    · intro field _ v hv
      have hm := Layer.mem_of_get?_ofFields hv
      simp only [List.mem_cons, Prod.mk.injEq, List.not_mem_nil, or_false] at hm
      rcases hm with ⟨rfl, rfl⟩ | ⟨rfl, rfl⟩
      · exact ⟨.text "hex", rfl⟩
      · exact ⟨.text "%S", rfl⟩
  refine ⟨⟨⟨hparse, hparse'⟩, ⟨hlast, hlast'⟩, by decide, rfl, hfile, rfl, hsame⟩, ?_⟩
  refine last_display_decides hparse hparse' hlast hlast' (by decide) rfl ?_ []
  intro path hp
  obtain rfl : "serialdump.cfg" = path := Value.text.inj hp
  exact ⟨file, .empty, hfile, rfl, hsame⟩

/-- The format of the last switch is dropped if it is an end mark. The format before it then shows,
if there is one. -/
theorem dropped_format_shows_earlier :
    let use : ModeUse := .format ['-', '-']
    let options : Options := { display := withUses .empty [.format ['%', 'H'], use] }
    let options' : Options := { display := withUses .empty [.choice .hex, use] }
    let tree : FileTree := ⟨[], []⟩
    ((parse ["-T%H", "-T--"] = .ok options ∧ parse ["-x", "-T--"] = .ok options') ∧
        ((modeUses ["-T%H", "-T--"]).getLast? = some use ∧
          (modeUses ["-x", "-T--"]).getLast? = some use) ∧
            options.undisplayed = options'.undisplayed ∧
              fileLayer tree "serialdump.cfg" = .ok .empty ∧ SameButDisplay .empty .empty) ∧
      ¬ SameTerminal ((options.resolve []).run tree).outcome
        ((options'.resolve []).run tree).outcome := by
  intro use options options' tree
  have hcfg : ((options.resolve []).run tree).outcome =
      .ok { mode := .startDate, timeFormat := some "%H" } :=
    eq_ok_of_toOption (by decide +kernel)
  have hcfg' : ((options'.resolve []).run tree).outcome = .ok { mode := .startDate } :=
    eq_ok_of_toOption (by decide +kernel)
  refine ⟨⟨⟨rfl, rfl⟩, ⟨rfl, rfl⟩, rfl, rfl, fun _ _ => rfl, ?_, ?_⟩, ?_⟩
  · intro field _ v h
    cases h
  · intro field _ v h
    cases h
  · intro h
    have hevents := ((h.alike _ _ hcfg hcfg').viewer (.ofReadings []) .willing).events [[65]]
    revert hevents
    decide +kernel

end SerialTerminal.CommandLine
