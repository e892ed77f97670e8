import SerialTerminal.Config.Load
import SerialTerminal.Proofs.Act
import SerialTerminal.Proofs.Config.Field

/-!
# Sources of a configuration

What a file and the environment supply. The environment is read twice: the first reading takes a
line speed as any number, and its result is a layer over the file. Both readings together make of a
variable what its field makes of the text of the variable (`read_get?_toLayer`). So a file and an
environment lead to a configuration just if all that they supply is valid, and the environment comes
before the file (`exists_underEnvironment_iff`, `readFrom_underEnvironment`).
-/

namespace SerialTerminal.Config

/-- The value that an environment supplies for a field, for those that it can set. -/
def Environment.get? (env : Environment) (field : Field) : Option Value :=
  if field ∈ [.device, .baudrate, .delayUs, .logDir, .debug] then Overrides.supplied? env field
  else none

namespace Overrides

/-- What overrides supply for a field. -/
def get? (o : Overrides) : Field → Option Value
  | .device => o.device.map .text
  | .baudrate => o.baudrate.map .int
  | .delayUs => o.delayUs.map .int
  | .logDir => o.logDir.map .text
  | .debug => o.debug.map .bool
  | _ => none

/-- They supply it as a layer. -/
theorem get?_toLayer (o : Overrides) (field : Field) : o.toLayer.get? field = o.get? field := by
  simp only [toLayer, Layer.ofFields_append, Layer.get?_update, Layer.get?_ofFields_toList]
  cases field <;> simp [get?]

section Variable

variable {α : Type} {read : Value → Except Fault α} {c : α → Value} {env : Environment}
  {field : Field}

/-- A variable that is read and read again is what its field makes of it. -/
theorem map_read_of_readVariable (hc : ∀ v a, read v = .ok a → field.read (c a) = field.read v)
    {x : Option α} (h : readVariable read env field = .ok x) :
    (x.map c).map field.read = (supplied? env field).map field.read := by
  rw [readVariable] at h
  cases hs : supplied? env field with
  | none =>
    rw [hs] at h
    rw [← Except.ok.inj h]
    rfl
  | some v =>
    rw [hs] at h
    cases hr : read v with
    | error fault =>
      simp only [hr] at h
      cases h
    | ok a =>
      simp only [hr] at h
      rw [← Except.ok.inj h, Option.map_some, Option.map_some, Option.map_some, hc v a hr]

/-- A variable can be read if its value is valid or it is not set. -/
theorem exists_readVariable (hr : ∀ v, field.Accepts v → ∃ a, read v = .ok a)
    (h : ∀ v, supplied? env field = some v → field.Accepts v) :
    ∃ x, readVariable read env field = .ok x := by
  rw [readVariable]
  cases hs : supplied? env field with
  | none => exact ⟨none, rfl⟩
  | some v =>
    obtain ⟨a, ha⟩ := hr v (h v hs)
    refine ⟨some a, ?_⟩
    simp only [ha]
    rfl

end Variable

private theorem read_baudrate_int {v : Value} {n : Int} (h : v.readInt = .ok n) :
    Field.baudrate.read (.int n) = Field.baudrate.read v := by
  rw [Field.read, Field.read, Value.readBaudrate, Value.readBaudrate, h]
  rfl

private theorem readInt_of_accepts {v : Value} (h : Field.baudrate.Accepts v) :
    ∃ n, v.readInt = .ok n := by
  obtain ⟨w, hw⟩ := h
  cases hn : v.readInt with
  | ok n => exact ⟨n, rfl⟩
  | error fault =>
    rw [Field.read, Value.readBaudrate, hn] at hw
    cases hw

/-- Read again by its field, what the environment supplies is the text of a variable. -/
theorem read_get?_toLayer {env : Environment} {o : Overrides} (h : ofEnvironment env = .ok o)
    (field : Field) :
    (o.toLayer.get? field).map field.read = (Environment.get? env field).map field.read := by
  simp only [ofEnvironment] at h
  split at h
  · next hdevice hbaudrate hdelayUs hlogDir hdebug =>
    rw [← Except.ok.inj h, get?_toLayer]
    cases field with
    | mode | timeFormat | startTime => rfl
    | device =>
      refine map_read_of_readVariable ?_ hdevice
      intro v text hv
      rw [Field.read, Field.read, hv]
      rfl
    | baudrate => exact map_read_of_readVariable (fun _ _ => read_baudrate_int) hbaudrate
    | delayUs =>
      refine map_read_of_readVariable ?_ hdelayUs
      intro v n hv
      have hn : (Value.int n).readDelay = .ok n := if_pos (Value.nonneg_of_readDelay hv)
      rw [Field.read, Field.read, hv, hn]
    | logDir =>
      refine map_read_of_readVariable ?_ hlogDir
      intro v text hv
      rw [Field.read, Field.read, hv]
      rfl
    | debug =>
      refine map_read_of_readVariable ?_ hdebug
      intro v b hv
      rw [Field.read, Field.read, hv]
      rfl
  · cases h

private theorem ok_of_accepts {α : Type} {field : Field} {read : Value → Except Fault α}
    {f : α → Value} (hf : ∀ v, field.read v = (read v).map f) {v : Value} (h : field.Accepts v) :
    ∃ a, read v = .ok a := by
  obtain ⟨w, hw⟩ := h
  obtain ⟨a, ha, _⟩ := exists_ok_of_map ((hf v).symm.trans hw)
  exact ⟨a, ha⟩

/-- An environment can be read if all that it supplies is valid. -/
theorem exists_ofEnvironment {env : Environment}
    (h : ∀ field v, Environment.get? env field = some v → field.Accepts v) :
    ∃ o, ofEnvironment env = .ok o := by
  obtain ⟨device, hdevice⟩ := exists_readVariable (fun _ => ok_of_accepts fun _ => rfl) (h .device)
  obtain ⟨baudrate, hbaudrate⟩ := exists_readVariable (fun _ => readInt_of_accepts) (h .baudrate)
  obtain ⟨delayUs, hdelayUs⟩ :=
    exists_readVariable (fun _ => ok_of_accepts fun _ => rfl) (h .delayUs)
  obtain ⟨logDir, hlogDir⟩ := exists_readVariable (fun _ => ok_of_accepts fun _ => rfl) (h .logDir)
  obtain ⟨debug, hdebug⟩ := exists_readVariable (fun _ => ok_of_accepts fun _ => rfl) (h .debug)
  refine ⟨⟨device, baudrate, delayUs, logDir, debug⟩, ?_⟩
  rw [ofEnvironment, hdevice, hbaudrate, hdelayUs, hlogDir, hdebug]

end Overrides

private theorem accepts_of_map_read_eq {field : Field} {s t : Option Value}
    (h : s.map field.read = t.map field.read) (hs : ∀ v, s = some v → field.Accepts v) :
    ∀ v, t = some v → field.Accepts v := by
  rintro v rfl
  cases s with
  | none => cases h
  | some u =>
    obtain ⟨w, hw⟩ := hs u rfl
    exact ⟨w, (Option.some.inj h).symm.trans hw⟩

section Environment

variable {layer : Layer} {env : Environment} {cfg : Config}

private theorem underEnvironment_eq {mid : Config} (hm : build layer {} = .ok mid) {o : Overrides}
    (ho : Overrides.ofEnvironment env = .ok o) :
    underEnvironment layer env = build o.toLayer mid := by
  have hv : mid.Valid := (validate_eq_ok_iff.mp hm).valid
  rw [underEnvironment, hm, ho]
  change (if o.toLayer = .empty then Except.ok mid else build o.toLayer mid) = _
  split
  · next he => rw [he, build_empty hv]
  · rfl

private theorem exists_of_underEnvironment (h : underEnvironment layer env = .ok cfg) :
    ∃ mid o, build layer {} = .ok mid ∧ Overrides.ofEnvironment env = .ok o := by
  rw [underEnvironment] at h
  cases hm : build layer {} with
  | error faults =>
    rw [hm] at h
    cases h
  | ok mid =>
    cases ho : Overrides.ofEnvironment env with
    | error faults =>
      rw [hm, ho] at h
      cases h
    | ok o => exact ⟨mid, o, rfl, rfl⟩

/-- A file and an environment lead to a configuration just if all that they supply is valid. -/
theorem exists_underEnvironment_iff :
    (∃ cfg, underEnvironment layer env = .ok cfg) ↔
      (∀ field v, layer.get? field = some v → field.Accepts v) ∧
        ∀ field v, Environment.get? env field = some v → field.Accepts v := by
  constructor
  · rintro ⟨cfg, h⟩
    obtain ⟨mid, o, hm, ho⟩ := exists_of_underEnvironment h
    have hv : mid.Valid := (validate_eq_ok_iff.mp hm).valid
    rw [underEnvironment_eq hm ho] at h
    have hf := (exists_build_iff valid_default).mp ⟨mid, hm⟩
    have he := (exists_build_iff hv).mp ⟨cfg, h⟩
    refine ⟨hf, fun field => ?_⟩
    exact accepts_of_map_read_eq (Overrides.read_get?_toLayer ho field) (he field)
  · rintro ⟨hf, he⟩
    obtain ⟨mid, hm⟩ := (exists_build_iff valid_default).mpr hf
    obtain ⟨o, ho⟩ := Overrides.exists_ofEnvironment he
    have hv : mid.Valid := (validate_eq_ok_iff.mp hm).valid
    rw [underEnvironment_eq hm ho]
    refine (exists_build_iff hv).mpr fun field => ?_
    exact accepts_of_map_read_eq (Overrides.read_get?_toLayer ho field).symm (he field)

/-- What the environment supplies comes before what the file supplies. -/
theorem readFrom_underEnvironment (h : underEnvironment layer env = .ok cfg) :
    cfg.ReadFrom (overlay (Environment.get? env) (overlay layer.get? (get {}))) := by
  obtain ⟨mid, o, hm, ho⟩ := exists_of_underEnvironment h
  rw [underEnvironment_eq hm ho] at h
  have hr := ReadFrom.build (ReadFrom.build (valid_iff.mp valid_default) hm) h
  intro field
  have hf := hr field
  have he := Overrides.read_get?_toLayer ho field
  cases hs : o.toLayer.get? field with
  | none =>
    rw [hs] at he
    have ht : Environment.get? env field = none := Option.map_eq_none_iff.mp he.symm
    rw [overlay_of_eq_none hs] at hf
    rwa [overlay_of_eq_none ht]
  | some u =>
    rw [hs] at he
    obtain ⟨v, ht, hv⟩ := Option.map_eq_some_iff.mp he.symm
    rw [overlay_of_eq_some hs] at hf
    rwa [overlay_of_eq_some ht, hv]

end Environment

section File

variable {tree : FileTree} {path : String} {layer : Layer}

/-- The layer of the file at a path, its log directory seen from where the file is. Where there is
no file, nothing is supplied. -/
def fileLayer (tree : FileTree) (path : String) : Except Failure Layer :=
  match tree.read path.toList with
  | .ok none => .ok .empty
  | .ok (some bytes) => (layerOfBytes bytes).map (withLogDirFrom (directoryOf tree path.toList))
  | .error denied => .error (.file denied)

private theorem ends_read {contents : Option (List UInt8)}
    (h : tree.read path.toList = .ok contents) :
    Act.Ends (Act.ofExcept ((tree.read path.toList).mapError Failure.file)) tree contents tree
      [] := by
  rw [Act.Ends, Act.run_ofExcept, h]
  rfl

/-- A file is read as its layer. -/
theorem ends_readFile (h : fileLayer tree path = .ok layer) :
    ∃ es, Act.Ends (readFile path none) tree layer tree es := by
  rw [fileLayer] at h
  split at h
  · next hread =>
    obtain rfl : Layer.empty = layer := Except.ok.inj h
    exact ⟨[], (Act.ends_get tree).bind ((ends_read hread).bind (Act.ends_done _ tree))⟩
  · next bytes hread =>
    obtain ⟨raw, hraw, rfl⟩ := exists_ok_of_map h
    have hbytes : Act.Ends (Act.ofExcept (layerOfBytes bytes)) tree raw tree [] := by
      rw [Act.Ends, Act.run_ofExcept, hraw]
    have hlog := Act.ends_emit (.record .debug s!"Loaded configuration from {path}") tree
    refine ⟨[.record .debug s!"Loaded configuration from {path}"], ?_⟩
    refine (Act.ends_get tree).bind ((ends_read hread).bind ?_)
    exact hbytes.bind (hlog.bind (Act.ends_done _ tree))
  · cases h

/-- A file that has no layer is not read. -/
theorem run_readFile_of_error {e : Failure} (h : fileLayer tree path = .error e) :
    (readFile path none).run tree = ⟨.error e, tree, []⟩ := by
  rw [readFile, Act.run_bind_of_ok _ (Act.ends_get tree)]
  rw [fileLayer] at h
  split at h
  · cases h
  · next bytes hread =>
    have hbytes : (Act.ofExcept (layerOfBytes bytes)).run tree = ⟨.error e, tree, []⟩ := by
      rw [Act.run_ofExcept, map_eq_error_iff.mp h]
    rw [Act.run_bind_of_ok _ (ends_read hread)]
    simp only
    rw [Act.run_bind_of_error _ hbytes]
    rfl
  · next denied hread =>
    have hdenied : (Act.ofExcept ((tree.read path.toList).mapError Failure.file)).run tree =
        ⟨.error e, tree, []⟩ := by
      rw [Act.run_ofExcept, hread, ← Except.error.inj h]
      rfl
    rw [Act.run_bind_of_error _ hdenied]
    rfl

/-- A file that can be read leads to what it supplies, under the environment. -/
theorem outcome_load (h : fileLayer tree path = .ok layer) (env : Environment) :
    ∃ es, (load env (some path) none).run tree =
      ⟨(underEnvironment layer env).mapError fun found => .misconfigured (.faults found), tree,
        es⟩ := by
  obtain ⟨es, hr⟩ := ends_readFile h
  refine ⟨es, ?_⟩
  rw [load, Act.run_bind_of_ok _ hr]
  simp only [Act.run_ofExcept, List.append_nil]

/-- A file that has no layer leads nowhere. -/
theorem run_load_of_error {e : Failure} (h : fileLayer tree path = .error e) (env : Environment) :
    (load env (some path) none).run tree = ⟨.error e, tree, []⟩ := by
  rw [load, Act.run_bind_of_error _ (run_readFile_of_error h)]

end File

end SerialTerminal.Config
