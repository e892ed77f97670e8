import SerialTerminal.CommandLine.Resolution
import SerialTerminal.Proofs.Config.Field

/-!
# What a command line can ask for

Options are put together from switches and operands. `of_parse` reasons about all command lines at
once: what holds of no options and is kept by each switch and each operand holds of the options of
every command line. It gives `formed_of_parse`: a delay is a number or was dropped, and the switches
for display modes set nothing but the display.
-/

namespace SerialTerminal.CommandLine

open Config (Field Layer Value)

section Keeping

/-- Holds of a property of options that each switch and each operand keeps. -/
structure Kept (P : Options → Prop) : Prop where
  initial : P {}
  flag : ∀ {options options' : Options} {switch : Switch}, P options →
    options.flag switch = .ok options' → P options'
  assign : ∀ {options options' : Options} {switch : Switch} {text : List Char}, P options →
    options.assign switch text = .ok options' → P options'
  operand : ∀ {options : Options} {devices : List String}, P options →
    P { options with devices := devices }

variable {P : Options → Prop}

private theorem of_flags (h : Kept P) {flags : List Switch} {options options' : Options}
    (ho : P options) (hf : flags.foldlM Options.flag options = .ok options') : P options' := by
  induction flags generalizing options with
  | nil =>
    obtain rfl : options = options' := Except.ok.inj hf
    exact ho
  | cons switch rest ih =>
    rw [List.foldlM_cons] at hf
    obtain ⟨next, hn, hr⟩ := exists_ok_of_bind hf
    exact ih (h.flag ho hn) hr

private theorem of_apply (h : Kept P) {c : Cluster} {value : Option (List Char)}
    {options options' : Options} (ho : P options) (ha : c.apply value options = .ok options') :
    P options' := by
  obtain ⟨flagged, hf, hl⟩ := exists_ok_of_bind ha
  have hp := of_flags h ho hf
  cases value with
  | none => exact h.flag hp hl
  | some text => exact h.assign hp hl

private theorem of_cluster (h : Kept P) {c : Cluster} {value : Option (List Char)} {d d' : Draft}
    (hd : P d.options) (hc : d.cluster c value = .ok d') : P d'.options := by
  obtain ⟨options, ho, rfl⟩ := exists_ok_of_map hc
  exact of_apply h hd ho

private theorem of_consume (h : Kept P) {d d' : Draft} {tokens : List Token} (hd : P d.options)
    (hc : d.consume tokens = .ok d') : P d'.options := by
  fun_induction Draft.consume d tokens with
  | case1 d =>
    obtain rfl : d = d' := Except.ok.inj hc
    exact hd
  | case2 d text rest ih =>
    refine ih ?_ hc
    rw [Draft.operand]
    split
    · exact hd
    · exact h.operand hd
  | case3 d rest ih =>
    refine ih ?_ hc
    rw [Draft.endMark]
    split
    · exact hd
    · exact hd
  | case4 d text rest ih => exact ih hd hc
  | case5 => cases hc
  | case6 d switch name attached c _ _ value behind ih =>
    obtain ⟨next, hn, hr⟩ := exists_ok_of_bind hc
    exact ih next (of_cluster h hd hn) hr
  | case7 => cases hc
  | case8 d switch name attached rest c _ _ ih =>
    obtain ⟨next, hn, hr⟩ := exists_ok_of_bind hc
    exact ih next (of_cluster h hd hn) hr

/-- What each switch and each operand keeps holds of the options of every command line. -/
theorem of_parse (h : Kept P) {arguments : List String} {options : Options}
    (hp : parse arguments = .ok options) : P options := by
  obtain ⟨tokens, _, hp⟩ := exists_ok_of_bind hp
  obtain ⟨draft, hd, hp⟩ := exists_ok_of_bind hp
  have hdraft := of_consume h h.initial hd
  split at hp
  · obtain rfl : draft.options = options := Except.ok.inj hp
    exact hdraft
  · cases hp

end Keeping

/-- The fields that the switches for display modes set. -/
def displayFields : List Field := [.mode, .timeFormat, .startTime]

/-- Holds of the layers that set nothing but the display. -/
def OfDisplay (layer : Layer) : Prop :=
  ∀ (field : Field) (v : Value), layer.get? field = some v → field ∈ displayFields

/-- Nothing is set. -/
theorem ofDisplay_empty : OfDisplay .empty := fun _ _ h => by cases h

/-- A layer on top of another. -/
theorem OfDisplay.update {lower upper : Layer} (hl : OfDisplay lower) (hu : OfDisplay upper) :
    OfDisplay (lower.update upper) := by
  intro field v h
  rw [Layer.get?_update] at h
  cases hv : upper.get? field with
  | some u => exact hu field u hv
  | none =>
    rw [hv, Option.none_or] at h
    exact hl field v h

/-- A layer of fields of the display. -/
theorem ofDisplay_ofFields {entries : List (Field × Value)}
    (h : ∀ entry ∈ entries, entry.1 ∈ displayFields) : OfDisplay (.ofFields entries) := by
  intro field v hv
  exact h (field, v) (Layer.mem_of_get?_ofFields hv)

/-- One more field of the display. -/
theorem OfDisplay.set {layer : Layer} (hl : OfDisplay layer) {field : Field}
    (hf : field ∈ displayFields) (v : Value) : OfDisplay (layer.set field v) := by
  have hs : OfDisplay (.ofFields [(field, v)]) := by
    apply ofDisplay_ofFields
    intro entry he
    rw [List.mem_singleton.mp he]
    exact hf
  exact hl.update hs

private theorem ofDisplay_modeLayer (mode : DisplayMode) : OfDisplay (modeLayer mode) :=
  ofDisplay_ofFields (by simp [displayFields])

private theorem ofDisplay_layer (choice : ModeChoice) : OfDisplay choice.layer := by
  cases choice with
  | stamped | stampedSinceStart => exact ofDisplay_ofFields (by simp [displayFields])
  | _ => exact ofDisplay_modeLayer _

private theorem ofDisplay_formattedLayer (text : List Char) :
    OfDisplay (Options.formattedLayer text) := by
  rw [Options.formattedLayer]
  split
  · exact ofDisplay_modeLayer _
  · exact (ofDisplay_modeLayer _).set (by decide) _

/-- What every command line keeps to. -/
structure Formed (options : Options) : Prop where
  /-- A delay is a number or was dropped. -/
  delay : ∀ v, options.delay = some v → v = .composite ∨ ∃ n, v = .int n
  /-- The switches for display modes set nothing else. -/
  display : OfDisplay options.display

private theorem integerValue_cases {switch : Switch} {text : List Char} {v : Value}
    (h : Options.integerValue switch text = .ok v) : v = .composite ∨ ∃ n, v = .int n := by
  rw [Options.integerValue] at h
  split at h
  · exact .inl (Except.ok.inj h).symm
  · split at h
    · exact .inr ⟨_, (Except.ok.inj h).symm⟩
    · cases h

private theorem Formed.withDisplay {options : Options} (h : Formed options) {layer : Layer}
    (hl : OfDisplay layer) : Formed (options.withDisplay layer) :=
  ⟨h.delay, h.display.update hl⟩

private theorem kept_formed : Kept Formed where
  initial := ⟨fun _ h => absurd h (by simp), ofDisplay_empty⟩
  flag := by
    intro options options' switch h hf
    cases switch with
    | help => cases hf
    | mode choice =>
      rw [← Except.ok.inj hf]
      exact h.withDisplay (ofDisplay_layer choice)
    | debug =>
      rw [← Except.ok.inj hf]
      exact ⟨h.delay, h.display⟩
    | _ =>
      rw [← Except.ok.inj hf]
      exact h
  assign := by
    intro options options' switch text h ha
    cases switch with
    | baudrate =>
      obtain ⟨v, _, rfl⟩ := exists_ok_of_map ha
      exact ⟨h.delay, h.display⟩
    | delay =>
      obtain ⟨v, hv, rfl⟩ := exists_ok_of_map ha
      refine ⟨?_, h.display⟩
      intro u hu
      rw [← Option.some.inj hu]
      exact integerValue_cases hv
    | stampFormat =>
      rw [← Except.ok.inj ha]
      exact h.withDisplay (ofDisplay_formattedLayer text)
    | config | logDir =>
      rw [← Except.ok.inj ha]
      exact ⟨h.delay, h.display⟩
    | _ =>
      rw [← Except.ok.inj ha]
      exact h
  operand := fun h => ⟨h.delay, h.display⟩

/-- Every command line keeps to it. -/
theorem formed_of_parse {arguments : List String} {options : Options}
    (h : parse arguments = .ok options) : Formed options := of_parse kept_formed h

end SerialTerminal.CommandLine
