import SerialTerminal.Config.Value
import SerialTerminal.Proofs.Results

/-!
# Validation

The values of a configuration are validated by pydantic (`SPEC_FULL.md` §10), whose rules
`Config.Value` follows. Layers rely on one thing only: what was read of a value is accepted as it
is, and nothing is made of it a second time. `Validation` is a way to read values for which this
holds; what is put on top of a value that was read then reads as on top of what it was read from
(`read_layered`).

Every kind of field is an instance: text, text that may be left out, a boolean, a mode, and an
integer with a condition on it.
-/

namespace SerialTerminal.Config

/-- A way to read values that leaves alone what it has read. -/
structure Validation (ν ε : Type) where
  read : ν → Except ε ν
  read_idem : ∀ {v w : ν}, read v = .ok w → read w = .ok w

namespace Validation

section Layered

variable {α ν ε : Type}

/-- Reads values of a type and keeps them in a form of which the same value is read. -/
def ofKept (read : ν → Except ε α) (keep : α → ν)
    (h : ∀ {v : ν} {a : α}, read v = .ok a → read (keep a) = .ok a) : Validation ν ε where
  read v := (read v).map keep
  read_idem hv := by
    obtain ⟨a, ha, rfl⟩ := exists_ok_of_map hv
    rw [h ha]
    rfl

/-- What is supplied on top of a value that was read is read as on top of what that came from. -/
theorem read_layered (validation : Validation ν ε) {lower : Option ν} {base mid : ν}
    (h : validation.read (lower.getD base) = .ok mid) (upper : Option ν) :
    validation.read (upper.getD mid) = validation.read ((upper.or lower).getD base) := by
  cases upper with
  | some v => rfl
  | none => exact (validation.read_idem h).trans h.symm

end Layered

section Kinds

variable {p : Int → Prop} [DecidablePred p] {fault : Int → Fault} {m n : Int}

/-- Text. -/
def text : Validation Value Fault := ofKept Value.readText .text fun _ => rfl

/-- A boolean. -/
def boolean : Validation Value Fault := ofKept Value.readBool .bool fun _ => rfl

/-- The name of a mode. -/
def mode : Validation Value Fault :=
  ofKept Value.readMode (fun mode => .text mode.name) fun {_ mode} _ => by
    rw [Value.readMode, DisplayMode.ofName?_name]
    rfl

/-- An integer for which a condition holds. -/
def checked (p : Int → Prop) [DecidablePred p] (fault : Int → Fault) (n : Int) :
    Except Fault Int :=
  if p n then .ok n else .error (fault n)

/-- It is the integer that was checked. -/
theorem of_checked (h : checked p fault m = .ok n) : m = n ∧ p n := by
  rw [checked] at h
  split at h
  · next hp =>
    cases h
    exact ⟨rfl, hp⟩
  · cases h

/-- An integer with a condition on it. -/
def integer (p : Int → Prop) [DecidablePred p] (fault : Int → Fault) : Validation Value Fault :=
  ofKept (fun v => v.readInt >>= checked p fault) .int fun h => by
    obtain ⟨_, _, hchecked⟩ := exists_ok_of_bind h
    exact if_pos (of_checked hchecked).2

end Kinds

end Validation

end SerialTerminal.Config
