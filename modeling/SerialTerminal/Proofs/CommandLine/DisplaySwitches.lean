import SerialTerminal.Proofs.CommandLine.Parsing

/-!
# Switches for display modes

The uses of switches for display modes on a command line, in order (`modeUses`). They are read off
the tokens as the tokens are used: a switch may stand behind others, and its value may be attached
or be the operand behind it. What a command line sets for the display are the layers of its uses,
the later ones on top (`display_of_parse`), so the layer of the last use is the topmost one.
-/

namespace SerialTerminal.CommandLine

open Config (Field Layer Value)

/-- A use of a switch for a display mode. -/
inductive ModeUse where
  | choice (choice : ModeChoice)
  | format (text : List Char)
deriving DecidableEq, Repr

/-- The layer of a use. -/
def ModeUse.layer : ModeUse → Layer
  | .choice c => c.layer
  | .format text => Options.formattedLayer text

/-- The use that a switch and its value are. -/
def Switch.modeUse? : Switch → Option (List Char) → Option ModeUse
  | .mode choice, none => some (.choice choice)
  | .stampFormat, some text => some (.format text)
  | _, _ => none

/-- The uses among switches behind one dash. -/
def Cluster.modeUses (c : Cluster) (value : Option (List Char)) : List ModeUse :=
  c.flags.filterMap (fun switch => switch.modeUse? none) ++ (c.last.modeUse? value).toList

/-- The uses among tokens. -/
def Token.modeUses : List Token → List ModeUse
  | [] => []
  | .option switch name attached :: rest =>
    match Cluster.ofToken switch name attached with
    | .error _ => []
    | .ok c =>
      if c.last.takesValue && c.attached.isNone then
        match rest with
        | .operand value :: behind => c.modeUses (some value) ++ modeUses behind
        | _ => []
      else c.modeUses c.attached ++ modeUses rest
  | _ :: rest => modeUses rest

/-- The uses on a command line. -/
def modeUses (arguments : List String) : List ModeUse :=
  match Token.classifyAll (arguments.map fun text => withDefaultFormat text.toList) with
  | .ok tokens => Token.modeUses tokens
  | .error _ => []

/-- A layer with the layers of uses on top. -/
def withUses (layer : Layer) (uses : List ModeUse) : Layer :=
  uses.foldl (fun layer use => layer.update use.layer) layer

private theorem withUses_append (layer : Layer) (first second : List ModeUse) :
    withUses layer (first ++ second) = withUses (withUses layer first) second :=
  List.foldl_append

section Display

variable {options options' : Options}

private theorem display_flag {switch : Switch} (h : options.flag switch = .ok options') :
    options'.display = withUses options.display (switch.modeUse? none).toList := by
  cases switch with
  | help => cases h
  | _ =>
    obtain rfl := Except.ok.inj h
    rfl

private theorem display_assign {switch : Switch} {text : List Char}
    (h : options.assign switch text = .ok options') :
    options'.display = withUses options.display (switch.modeUse? (some text)).toList := by
  cases switch with
  | baudrate | delay =>
    obtain ⟨v, _, rfl⟩ := exists_ok_of_map h
    rfl
  | _ =>
    obtain rfl := Except.ok.inj h
    rfl

private theorem display_flags {flags : List Switch}
    (h : flags.foldlM Options.flag options = .ok options') :
    options'.display =
      withUses options.display (flags.filterMap fun switch => switch.modeUse? none) := by
  induction flags generalizing options with
  | nil =>
    obtain rfl : options = options' := Except.ok.inj h
    rfl
  | cons switch rest ih =>
    rw [List.foldlM_cons] at h
    obtain ⟨next, hn, hr⟩ := exists_ok_of_bind h
    have huses : (switch :: rest).filterMap (fun switch => switch.modeUse? none) =
        (switch.modeUse? none).toList ++ rest.filterMap fun switch => switch.modeUse? none := by
      rw [List.filterMap_cons]
      cases switch.modeUse? none <;> rfl
    rw [huses, withUses_append, ← display_flag hn]
    exact ih hr

private theorem display_apply {c : Cluster} {value : Option (List Char)}
    (h : c.apply value options = .ok options') :
    options'.display = withUses options.display (c.modeUses value) := by
  obtain ⟨flagged, hf, hl⟩ := exists_ok_of_bind h
  rw [Cluster.modeUses, withUses_append, ← display_flags hf]
  cases value with
  | none => exact display_flag hl
  | some text => exact display_assign hl

private theorem display_cluster {d d' : Draft} {c : Cluster} {value : Option (List Char)}
    (h : d.cluster c value = .ok d') :
    d'.options.display = withUses d.options.display (c.modeUses value) := by
  obtain ⟨options, ho, rfl⟩ := exists_ok_of_map h
  exact display_apply ho

private theorem display_consume {d d' : Draft} {tokens : List Token}
    (h : d.consume tokens = .ok d') :
    d'.options.display = withUses d.options.display (Token.modeUses tokens) := by
  fun_induction Draft.consume d tokens with
  | case1 d =>
    obtain rfl : d = d' := Except.ok.inj h
    rfl
  | case2 d text rest ih =>
    rw [ih h, Draft.operand]
    split <;> rfl
  | case3 d rest ih =>
    rw [ih h, Draft.endMark]
    split <;> rfl
  | case4 d text rest ih =>
    rw [ih h]
    rfl
  | case5 => cases h
  | case6 d switch name attached c hc ht value behind ih =>
    obtain ⟨next, hn, hr⟩ := exists_ok_of_bind h
    rw [ih next hr, display_cluster hn, ← withUses_append, Token.modeUses, hc]
    simp only [if_pos ht]
  | case7 => cases h
  | case8 d switch name attached rest c hc ht ih =>
    obtain ⟨next, hn, hr⟩ := exists_ok_of_bind h
    rw [ih next hr, display_cluster hn, ← withUses_append, Token.modeUses, hc]
    simp only [if_neg ht]

variable {arguments : List String}

/-- What a command line sets for the display are the layers of its uses. -/
theorem display_of_parse (h : parse arguments = .ok options) :
    options.display = withUses .empty (modeUses arguments) := by
  obtain ⟨tokens, ht, h⟩ := exists_ok_of_bind h
  obtain ⟨draft, hd, h⟩ := exists_ok_of_bind h
  have htokens : Token.classifyAll (arguments.map fun text => withDefaultFormat text.toList) =
      .ok tokens := mapError_eq_ok_iff.mp ht
  rw [modeUses, htokens]
  split at h
  · obtain rfl : draft.options = options := Except.ok.inj h
    exact display_consume hd
  · cases h

/-- The layer of the last use is the topmost one. -/
theorem exists_display_eq_update {use : ModeUse} (h : parse arguments = .ok options)
    (hlast : (modeUses arguments).getLast? = some use) :
    ∃ earlier : Layer, options.display = earlier.update use.layer := by
  obtain ⟨uses, huses⟩ := List.getLast?_eq_some_iff.mp hlast
  refine ⟨withUses .empty uses, ?_⟩
  rw [display_of_parse h, huses, withUses_append]
  rfl

private theorem accepts_modeLayer {mode : DisplayMode} {field : Field} {v : Value}
    (h : (modeLayer mode).get? field = some v) : field.Accepts v := by
  obtain ⟨rfl, rfl⟩ := Prod.mk.inj (List.mem_singleton.mp (Layer.mem_of_get?_ofFields h))
  refine ⟨.text mode.name, ?_⟩
  rw [Field.read, Value.readMode, DisplayMode.ofName?_name]
  rfl

private theorem accepts_stampedLayer {sinceStart : Bool} {field : Field} {v : Value}
    (h : (stampedLayer sinceStart).get? field = some v) : field.Accepts v := by
  have hm := Layer.mem_of_get?_ofFields h
  simp only [List.mem_cons, Prod.mk.injEq, List.not_mem_nil, or_false] at hm
  rcases hm with ⟨rfl, rfl⟩ | ⟨rfl, rfl⟩ | ⟨rfl, rfl⟩
  · exact ⟨.text DisplayMode.startDate.name, rfl⟩
  · exact ⟨.null, rfl⟩
  · exact ⟨.bool sinceStart, rfl⟩

/-- What a use sets is valid. -/
theorem ModeUse.accepts_layer {use : ModeUse} {field : Field} {v : Value}
    (h : use.layer.get? field = some v) : field.Accepts v := by
  cases use with
  | choice c =>
    cases c with
    | stamped | stampedSinceStart => exact accepts_stampedLayer h
    | _ => exact accepts_modeLayer h
  | format text =>
    rw [layer, Options.formattedLayer] at h
    split at h
    · exact accepts_modeLayer h
    · by_cases hf : field = .timeFormat
      · subst hf
        rw [Layer.get?_set_self] at h
        obtain rfl := Option.some.inj h
        exact ⟨.text (String.ofList text), rfl⟩
      · rw [Layer.get?_set_of_ne _ (Ne.symm hf)] at h
        exact accepts_modeLayer h

private theorem accepts_withUses {layer : Layer} {uses : List ModeUse}
    (hl : ∀ (field : Field) (v : Value), layer.get? field = some v → field.Accepts v)
    (field : Field) (v : Value) (h : (withUses layer uses).get? field = some v) :
    field.Accepts v := by
  induction uses generalizing layer with
  | nil => exact hl field v h
  | cons use rest ih =>
    refine ih ?_ h
    intro field v hv
    rw [Layer.get?_update] at hv
    rcases Option.or_eq_some_iff.mp hv with hu | ⟨_, hu⟩
    · exact ModeUse.accepts_layer hu
    · exact hl field v hu

/-- What a command line sets for the display is valid. -/
theorem accepts_display (h : parse arguments = .ok options) (field : Field) (v : Value)
    (hv : options.display.get? field = some v) : field.Accepts v := by
  rw [display_of_parse h] at hv
  exact accepts_withUses (fun _ _ he => by cases he) field v hv

end Display

end SerialTerminal.CommandLine
