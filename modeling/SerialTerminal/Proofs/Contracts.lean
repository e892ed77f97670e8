import SerialTerminal.Proofs.Act

/-!
# Contracts of acts

`Act.Meets` says what holds after an act that starts where something else holds: one thing if it
ends well and another one if it fails. The failure comes with the state that it leaves, since a
failed act undoes nothing. The rules follow the ways in which acts are put together.
-/

namespace SerialTerminal.Act

variable {σ α β : Type}

/-- Holds of an act that, from the states with a property, leaves a state as promised, for the
result that it gives or for the failure that it ends with. -/
structure Meets (P : σ → Prop) (x : Act σ α) (Q : α → σ → Prop) (E : Failure → σ → Prop) :
    Prop where
  ok : ∀ {s a s' es}, P s → Ends x s a s' es → Q a s'
  error : ∀ {s e s' es}, P s → x.run s = ⟨.error e, s', es⟩ → E e s'

variable {P R : σ → Prop} {Q : α → σ → Prop} {E : Failure → σ → Prop} {x : Act σ α}

/-- What always ends well. -/
theorem meets_of_ends (h : ∀ s, P s → ∃ a s' es, Ends x s a s' es ∧ Q a s') : Meets P x Q E where
  ok := by
    intro s a s' es hs hx
    obtain ⟨b, t, fs, hy, hq⟩ := h s hs
    obtain ⟨rfl, rfl, _⟩ := hx.unique hy
    exact hq
  error := by
    intro s e s' es hs hx
    obtain ⟨b, t, fs, hy, _⟩ := h s hs
    rw [hy] at hx
    cases hx

/-- Doing nothing. -/
theorem meets_done {a : α} (h : ∀ s, P s → Q a s) : Meets P (done a) Q E :=
  meets_of_ends fun s hs => ⟨a, s, [], rfl, h s hs⟩

/-- A change of the state. -/
theorem meets_modify {f : σ → σ} {Q : Unit → σ → Prop} (h : ∀ s, P s → Q () (f s)) :
    Meets P (modify f) Q E :=
  meets_of_ends fun s hs => ⟨(), f s, [], rfl, h s hs⟩

/-- An event. -/
theorem meets_emit {e : Event} {Q : Unit → σ → Prop} (h : ∀ s, P s → Q () s) :
    Meets P (emit e) Q E :=
  meets_of_ends fun s hs => ⟨(), s, [e], rfl, h s hs⟩

/-- A failure. -/
theorem meets_fail {e : Failure} (h : ∀ s, P s → E e s) : Meets P (fail e : Act σ α) Q E where
  ok := by
    intro s a s' es _ hx
    cases hx
  error := by
    intro s e' s' es hs hx
    cases hx
    exact h s hs

/-- Acts one after another. -/
theorem Meets.bind {f : α → Act σ β} {Q' : β → σ → Prop} (hx : Meets P x Q E)
    (hf : ∀ a, Meets (Q a) (f a) Q' E) : Meets P (x >>= f) Q' E where
  ok := by
    intro s b s'' gs hs h
    obtain ⟨a, s', es, fs, hxs, hfs, _⟩ := h.of_bind
    exact (hf a).ok (hx.ok hs hxs) hfs
  error := by
    intro s e s'' gs hs h
    rcases of_bind_error h with hxs | ⟨a, s', es, fs, hxs, hfs, _⟩
    · exact hx.error hs hxs
    · exact (hf a).error (hx.ok hs hxs) hfs

/-- A look at the state comes first. -/
theorem meets_gets_bind {g : σ → α} {f : α → Act σ β} {Q' : β → σ → Prop}
    (h : ∀ a, Meets (fun s => P s ∧ g s = a) (f a) Q' E) : Meets P (gets g >>= f) Q' E :=
  (meets_of_ends fun s hs => ⟨g s, s, [], rfl, hs, rfl⟩).bind h

/-- What the state is known to be may be used to prove the contract. -/
theorem meets_of_state (h : ∀ s, P s → Meets P x Q E) : Meets P x Q E where
  ok hs hx := (h _ hs).ok hs hx
  error hs hx := (h _ hs).error hs hx

/-- A stronger assumption, and weaker promises. -/
theorem Meets.mono {Q' : α → σ → Prop} {E' : Failure → σ → Prop} (hx : Meets P x Q E)
    (hP : ∀ s, R s → P s) (hQ : ∀ a s, Q a s → Q' a s) (hE : ∀ e s, E e s → E' e s) :
    Meets R x Q' E' where
  ok hs h := hQ _ _ (hx.ok (hP _ hs) h)
  error hs h := hE _ _ (hx.error (hP _ hs) h)

/-- An act for each element of a list keeps what it keeps for each element. -/
theorem meets_forEach {f : α → Act σ Unit} {l : List α}
    (h : ∀ a ∈ l, Meets P (f a) (fun _ => P) E) : Meets P (forEach f l) (fun _ => P) E := by
  induction l with
  | nil => exact meets_done fun _ hs => hs
  | cons a rest ih =>
    rw [List.forall_mem_cons] at h
    exact h.1.bind fun _ => ih h.2

end SerialTerminal.Act
