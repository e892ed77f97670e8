import SerialTerminal.Proofs.Config.Field

/-!
# Layers on top of each other

A configuration that came about under a layer can be put under another one. It then makes no
difference that it was validated in between: what comes about, or what is found at fault, is the
same as under both layers at once (`build_update`), and so for any number of layers (`build_stack`).
Values that were read once are read again as they are (`Validation`), and no field looks at the
value of another one.
-/

namespace SerialTerminal.Config

section Build

variable {lower upper : Layer} {base mid cfg : Config}

/-- What comes about depends on nothing but what the fields read. -/
theorem build_congr {layer layer' : Layer} {base base' : Config}
    (h : ∀ field : Field, field.read (overlay layer.get? base.get field) =
      field.read (overlay layer'.get? base'.get field)) :
    build layer base = build layer' base' := by
  cases hbuild : build layer base with
  | ok cfg =>
    symm
    refine build_eq_ok_iff.mpr fun field => ?_
    rw [← h field]
    exact build_eq_ok_iff.mp hbuild field
  | error found =>
    obtain ⟨hfound, hne⟩ := build_eq_error_iff.mp hbuild
    symm
    refine build_eq_error_iff.mpr ⟨?_, hne⟩
    rw [hfound]
    exact faultsIn_congr fun field => by rw [h field]

/-- A field reads the same of a configuration under a layer as of what both were made from. -/
theorem read_overlay_update (h : build lower base = .ok mid) (field : Field) :
    field.read (overlay upper.get? mid.get field) =
      field.read (overlay (lower.update upper).get? base.get field) := by
  rw [overlay, overlay, Layer.get?_update]
  exact Field.read_layered (build_eq_ok_iff.mp h field) (upper.get? field)

/-- One layer after another is both at once. -/
theorem build_update (h : build lower base = .ok mid) (upper : Layer) :
    build upper mid = build (lower.update upper) base :=
  build_congr (read_overlay_update h)

/-- A field that a layer does not name keeps its value. -/
theorem get_of_build (hmid : mid.Valid) (h : build upper mid = .ok cfg) {field : Field}
    (hnone : upper.get? field = none) : cfg.get field = mid.get field := by
  have hread := build_eq_ok_iff.mp h field
  rw [overlay_of_eq_none hnone, valid_iff.mp hmid field] at hread
  exact (Except.ok.inj hread).symm

/-- Layers on top of each other as one. -/
def Layer.stack (layers : List Layer) : Layer := layers.foldr Layer.update .empty

/-- Any number of layers, one after another, are all of them at once. -/
theorem build_stack {layers : List Layer} (hbase : base.Valid)
    (h : layers.foldlM (fun cfg layer => build layer cfg) base = .ok cfg) :
    build (Layer.stack layers) base = .ok cfg := by
  induction layers generalizing base with
  | nil =>
    obtain rfl : base = cfg := Except.ok.inj h
    exact build_empty hbase
  | cons layer rest ih =>
    rw [List.foldlM_cons] at h
    cases hmid : build layer base with
    | error found =>
      rw [hmid] at h
      cases h
    | ok mid =>
      rw [hmid] at h
      rw [← ih (build_eq_ok_iff.mp hmid).valid h, build_update hmid]
      rfl

/-- A configuration that came about under a layer behaves under the next one as if it had never been
validated in between: the same configuration comes about, or the same faults are found in the same
order. By itself it stays what it is, and so do the fields that the next layer does not name. -/
theorem build_on_built (h : build lower base = .ok mid) (upper : Layer) :
    build upper mid = build (lower.update upper) base ∧
      (build upper mid).mapError describe = (build (lower.update upper) base).mapError describe ∧
      build .empty mid = .ok mid ∧
      ∀ cfg, build upper mid = .ok cfg →
        ∀ field : Field, upper.get? field = none → cfg.get field = mid.get field := by
  have hvalid : mid.Valid := (build_eq_ok_iff.mp h).valid
  refine ⟨build_update h upper, ?_, build_empty hvalid, fun cfg hcfg field hnone => ?_⟩
  · rw [build_update h upper]
  · exact get_of_build hvalid hcfg hnone

/-- Numbers in text and with a fraction of zero, names of no field, and two values at fault. -/
theorem build_on_built_two_faults :
    let lower : Layer :=
      ⟨[("baudrate", .text " 09_600 "), ("colour", .composite), ("delay_us", .float (.ofInt 5)),
        ("debug", .text "ON"), ("mode", .text "hex")]⟩
    let upper : Layer :=
      ⟨[("starttime", .text "maybe"), ("delay_us", .bool true), ("size", .null),
        ("baudrate", .text "9600.5")]⟩
    let mid : Config := { baudrate := 9600, delayUs := 5, debug := true, mode := .hex }
    build lower {} = .ok mid ∧
      build upper mid =
        .error [(.baudrate, .unreadableInteger), (.startTime, .unreadableBoolean)] ∧
      build upper mid = build (lower.update upper) {} := by
  intro lower upper mid
  have hmid : build lower {} = .ok mid := rfl
  have h := (build_on_built hmid upper).1
  exact ⟨hmid, h.trans rfl, h⟩

end Build

end SerialTerminal.Config
