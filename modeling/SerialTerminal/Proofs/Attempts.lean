import SerialTerminal.Proofs.Act

/-!
# Attempts

A failure does not have to be the end of a run: the next act goes on with the state that the failed
one left. `attempts` lists what such a run comes to, one act for each input. What each act keeps
holds before and after every attempt (`forall_attempts`).
-/

namespace SerialTerminal

variable {ι σ : Type}

/-- An act of a run: its input, the state that it met and what came of it. -/
structure Attempt (ι σ : Type) where
  input : ι
  before : σ
  step : Step σ Unit

namespace Attempt

/-- The act of an input at a state. -/
def make (f : ι → Act σ Unit) (s : σ) (input : ι) : Attempt ι σ := ⟨input, s, (f input).run s⟩

/-- The state that was left. -/
def after (a : Attempt ι σ) : σ := a.step.state

end Attempt

/-- One act for each input, whether or not those before it failed. -/
def attempts (f : ι → Act σ Unit) : σ → List ι → List (Attempt ι σ)
  | _, [] => []
  | s, input :: rest => .make f s input :: attempts f (Attempt.make f s input).after rest

/-- The state that such a run leaves. -/
def stateAfter (f : ι → Act σ Unit) (s : σ) (inputs : List ι) : σ :=
  inputs.foldl (fun s input => (Attempt.make f s input).after) s

variable {f : ι → Act σ Unit} {s : σ} {inputs : List ι}

@[simp] theorem attempts_nil : attempts f s [] = [] := rfl

@[simp] theorem attempts_cons (input : ι) (rest : List ι) :
    attempts f s (input :: rest) =
      .make f s input :: attempts f (Attempt.make f s input).after rest := rfl

/-- What each act keeps holds all along, and with it what each act does from such a state. Something
may be known of all acts of the run beforehand. -/
theorem forall_attempts {P : σ → Prop} {C R : Attempt ι σ → Prop} (hs : P s)
    (hrun : ∀ a ∈ attempts f s inputs, C a)
    (h : ∀ s input, P s → C (.make f s input) →
      R (.make f s input) ∧ P (Attempt.make f s input).after) :
    ∀ a ∈ attempts f s inputs, R a ∧ P a.after := by
  induction inputs generalizing s with
  | nil => exact fun a ha => absurd ha List.not_mem_nil
  | cons input rest ih =>
    rw [attempts_cons, List.forall_mem_cons] at hrun ⊢
    have hfirst := h s input hs hrun.1
    exact ⟨hfirst, ih hfirst.2 hrun.2⟩

end SerialTerminal
