import SerialTerminal.Proofs.Config.Sources

/-!
# Lines of a configuration file

What can go wrong with the lines of a file, whatever they hold. A line of another form, a key that
means nothing and text that is no number do not stop the reading; values that no field accepts are
found when the configuration is put together. The one thing that does stop it is an infinite number
where a field of integers gets its value (`readLines_eq_error_iff`, `configOfLines_eq_error_iff`).

The log directory of a file is seen from where the file is. That changes no fault, for it is text
before and after (`build_withLogDirFrom_eq_error_iff`).
-/

namespace SerialTerminal.Config

namespace File

/-- The fields whose values are read as numbers. -/
def numberFields : List Field := [.baudrate, .delayUs]

/-- Holds of the lines that supply an infinite number for a field of integers. -/
def SuppliesInfinity (line : List Char) : Prop :=
  ∃ key value field negative, splitLine? line = some (key, value) ∧
    fieldOfKey? key = some field ∧ field ∈ numberFields ∧
      Text.readFloat? (textFor field value) = some (.infinite negative)

/-- A text has no number if it is one that is infinite. -/
theorem numberOfText_eq_error_iff {text : List Char} {e : Binary64.IntegerError} :
    numberOfText text = .error e ↔
      e = .infinite ∧ ∃ negative, Text.readFloat? text = some (.infinite negative) := by
  rw [numberOfText]
  cases Text.readFloat? text with
  | none => simp
  | some x => cases x <;> simp [Binary64.truncate, eq_comm]

/-- Only a field of integers may have no value for a text. -/
theorem valueOfText_eq_error_iff {field : Field} {text : List Char} {e : Binary64.IntegerError} :
    valueOfText field text = .error e ↔ field ∈ numberFields ∧ numberOfText text = .error e := by
  cases field <;> simp [valueOfText, numberFields]

/-- A line that cannot be read supplies an infinite number. -/
theorem readLine_eq_error_iff {line : List Char} {e : Binary64.IntegerError} :
    readLine line = .error e ↔ e = .infinite ∧ SuppliesInfinity line := by
  rw [readLine, SuppliesInfinity]
  cases splitLine? line with
  | none => simp
  | some entry =>
    obtain ⟨key, value⟩ := entry
    cases hk : fieldOfKey? key with
    | none => simp [hk]
    | some field =>
      simp only [hk, map_eq_error_iff, valueOfText_eq_error_iff, numberOfText_eq_error_iff]
      constructor
      · rintro ⟨hf, he, negative, hx⟩
        exact ⟨he, key, value, field, negative, rfl, hk, hf, hx⟩
      · rintro ⟨he, _, _, field', negative, ⟨rfl, rfl⟩, hk', hf, hx⟩
        obtain rfl : field = field' := Option.some.inj (hk.symm.trans hk')
        exact ⟨hf, he, negative, hx⟩

private theorem readLinesOnto_eq_error_iff {layer : Layer} {lines : List (List Char)}
    {e : Binary64.IntegerError} :
    readLinesOnto layer lines = .error e ↔
      e = .infinite ∧ ∃ line ∈ lines, SuppliesInfinity line := by
  induction lines generalizing layer with
  | nil => simp [readLinesOnto]
  | cons line rest ih =>
    simp only [readLinesOnto, List.mem_cons, exists_eq_or_imp, and_or_left, ← readLine_eq_error_iff]
    cases hl : readLine line with
    | error cause =>
      have hcause := (readLine_eq_error_iff.mp hl).1
      change Except.error cause = Except.error e ↔ _
      simp only [Except.error.injEq]
      refine ⟨.inl, ?_⟩
      rintro (rfl | ⟨rfl, _⟩)
      · rfl
      · exact hcause
    | ok supplied =>
      simp only [reduceCtorEq, false_or]
      cases supplied with
      | none => exact ih
      | some entry => exact ih

/-- Lines cannot be read just if one of them supplies an infinite number. -/
theorem readLines_eq_error_iff {lines : List (List Char)} {e : Binary64.IntegerError} :
    readLines lines = .error e ↔ e = .infinite ∧ ∃ line ∈ lines, SuppliesInfinity line :=
  readLinesOnto_eq_error_iff

end File

/-- The configuration that the lines of a file lead to. -/
def configOfLines (lines : List (List Char)) : Except Failure Config := do
  let layer ← (File.readLines lines).mapError .number
  (build layer {}).mapError fun found => .misconfigured (.faults found)

section Lines

variable {lines : List (List Char)} {layer : Layer}

/-- Lines that can be read lead to what their layer leads to. -/
theorem configOfLines_of_readLines (h : File.readLines lines = .ok layer) :
    configOfLines lines =
      (build layer {}).mapError fun found => .misconfigured (.faults found) := by
  rw [configOfLines, h]
  rfl

/-- A configuration of lines may be used. -/
theorem valid_of_configOfLines {cfg : Config} (h : configOfLines lines = .ok cfg) : cfg.Valid := by
  cases hl : File.readLines lines with
  | error cause =>
    rw [configOfLines, hl] at h
    cases h
  | ok layer =>
    rw [configOfLines_of_readLines hl, mapError_eq_ok_iff] at h
    exact (build_eq_ok_iff.mp h).valid

/-- No configuration comes about if a line supplies an infinite number, or if a field does not
accept what the lines supply. -/
theorem configOfLines_eq_error_iff {e : Failure} :
    configOfLines lines = .error e ↔
      (e = .number .infinite ∧ ∃ line ∈ lines, File.SuppliesInfinity line) ∨
        ∃ layer found, File.readLines lines = .ok layer ∧ build layer {} = .error found ∧
          e = .misconfigured (.faults found) := by
  cases hl : File.readLines lines with
  | error cause =>
    obtain ⟨rfl, hline⟩ := File.readLines_eq_error_iff.mp hl
    rw [configOfLines, hl]
    simp only [hline, and_true]
    change Except.error _ = Except.error e ↔ _
    simp [eq_comm]
  | ok layer =>
    have hline : ¬ ∃ line ∈ lines, File.SuppliesInfinity line := by
      intro h
      have he := File.readLines_eq_error_iff.mpr ⟨rfl, h⟩
      rw [hl] at he
      cases he
    rw [configOfLines_of_readLines hl, mapError_eq_error_iff]
    simp [hline]

example : configOfLines ["[baudrate] = 1e3 # slow".toList] =
    .error (.misconfigured (.faults [(.baudrate, .unsupportedBaudrate 1000)])) := rfl

/-- Faults do not depend on where a log directory is seen from. -/
theorem build_withLogDirFrom_eq_error_iff {directory : List Char} {layer : Layer} {base : Config}
    {found : Faults} :
    build (withLogDirFrom directory layer) base = .error found ↔
      build layer base = .error found := by
  rw [withLogDirFrom]
  split
  · next seen hseen =>
    rw [build_eq_error_iff, build_eq_error_iff]
    suffices hf : faultsIn (overlay (layer.set .logDir _).get? base.get) =
        faultsIn (overlay layer.get? base.get) by rw [hf]
    apply faultsIn_congr
    intro field
    by_cases hfield : field = .logDir
    · subst hfield
      rw [overlay_of_eq_some hseen, overlay_of_eq_some (Layer.get?_set_self layer .logDir _)]
      rfl
    · rw [overlay, overlay, Layer.get?_set_of_ne layer (Ne.symm hfield)]
  · rfl

/-- Holds of a path that leads to a file with some lines, which may be read. -/
def HasLines (tree : FileTree) (path : String) (lines : List (List Char)) : Prop :=
  ∃ bytes text, tree.read path.toList = .ok (some bytes) ∧ Utf8.decode bytes = (text, none) ∧
    Text.lines text = lines

/-- The layer of a file is that of its lines, its log directory seen from where the file is. -/
theorem fileLayer_of_hasLines {tree : FileTree} {path : String} (h : HasLines tree path lines) :
    fileLayer tree path = ((File.readLines lines).mapError .number).map
      (withLogDirFrom (directoryOf tree path.toList)) := by
  obtain ⟨bytes, text, hcontents, hdecode, rfl⟩ := h
  rw [fileLayer, hcontents]
  simp only [layerOfBytes, hdecode]

end Lines

end SerialTerminal.Config
