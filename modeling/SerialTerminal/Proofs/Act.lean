import SerialTerminal.Script

/-!
# Reasoning about acts

`Act.Ends` says that an act gives a result, which state it leaves and which events it causes.
`Act.Keeps` says that an act keeps a property of the state, whether or not it fails. The rules of
both follow the ways in which acts are put together.
-/

namespace SerialTerminal.Act

variable {σ τ α β : Type}

/-- A given result is the outcome. -/
@[simp] theorem run_ofExcept (r : Except Failure α) (s : σ) : (ofExcept r).run s = ⟨r, s, []⟩ := by
  cases r <;> rfl

/-- Holds of an act that ends well, with a result, a state and events. -/
def Ends (x : Act σ α) (s : σ) (a : α) (s' : σ) (es : List Event) : Prop :=
  x.run s = ⟨.ok a, s', es⟩

/-- Doing nothing ends well. -/
theorem ends_done (a : α) (s : σ) : Ends (done a) s a s [] := rfl

/-- A look at the state ends well. -/
theorem ends_get (s : σ) : Ends get s s s [] := rfl

/-- A change of the state ends well. -/
theorem ends_modify (f : σ → σ) (s : σ) : Ends (modify f) s () (f s) [] := rfl

/-- An event leaves the state alone. -/
theorem ends_emit (e : Event) (s : σ) : Ends (emit e) s () s [e] := rfl

/-- Acts that end well one after another. -/
theorem Ends.bind {x : Act σ α} {f : α → Act σ β} {s s' s'' : σ} {a : α} {b : β}
    {es fs : List Event} (hx : Ends x s a s' es) (hf : Ends (f a) s' b s'' fs) :
    Ends (x >>= f) s b s'' (es ++ fs) := by
  rw [Ends, run_bind_of_ok f hx, hf]

/-- An act on a part of the state. -/
theorem Ends.on {x : Act τ α} {part : σ → τ} {put : τ → σ → σ} {s : σ} {t : τ} {a : α}
    {es : List Event} (h : Ends x (part s) a t es) :
    Ends (on part put x) s a (put t s) es := by
  rw [Ends, run] at h
  rw [Ends, run, Act.on, h]

/-- An act that is attempted ends well, whatever comes of it. -/
theorem ends_attempt {x : Act σ α} {s s' : σ} {r : Except Failure α} {es : List Event}
    (h : x.run s = ⟨r, s', es⟩) : Ends (attempt x) s r s' es := by
  rw [run] at h
  rw [Ends, run, attempt, h]

/-- A run on a part of the state. -/
theorem run_on {x : Act τ α} {part : σ → τ} {put : τ → σ → σ} {s : σ} {t : τ}
    {r : Except Failure α} {es : List Event} (h : x.run (part s) = ⟨r, t, es⟩) :
    (on part put x).run s = ⟨r, put t s, es⟩ := by
  rw [run] at h
  rw [run, Act.on, h]

/-- An act ends in one way. -/
theorem Ends.unique {x : Act σ α} {s s' s'' : σ} {a b : α} {es fs : List Event}
    (hx : Ends x s a s' es) (hy : Ends x s b s'' fs) : a = b ∧ s' = s'' ∧ es = fs := by
  have h := hx.symm.trans hy
  exact ⟨Except.ok.inj (congrArg Step.outcome h), congrArg Step.state h, congrArg Step.events h⟩

/-- Acts one after another end well only if each of them does. -/
theorem Ends.of_bind {x : Act σ α} {f : α → Act σ β} {s s'' : σ} {b : β} {gs : List Event}
    (h : Ends (x >>= f) s b s'' gs) :
    ∃ a s' es fs, Ends x s a s' es ∧ Ends (f a) s' b s'' fs ∧ gs = es ++ fs := by
  rcases hx : x.run s with ⟨outcome, s', es⟩
  cases outcome with
  | error e =>
    rw [Ends, run_bind_of_error f hx] at h
    cases h
  | ok a =>
    rw [Ends, run_bind_of_ok f hx] at h
    refine ⟨a, s', es, ((f a).run s').events, hx, ?_, (congrArg Step.events h).symm⟩
    have ho := congrArg Step.outcome h
    have hs := congrArg Step.state h
    simp only at ho hs
    rw [Ends, ← ho, ← hs]

/-- Acts one after another fail where the first one does, or where the second one does. -/
theorem of_bind_error {x : Act σ α} {f : α → Act σ β} {s s'' : σ} {e : Failure}
    {gs : List Event} (h : (x >>= f).run s = ⟨.error e, s'', gs⟩) :
    x.run s = ⟨.error e, s'', gs⟩ ∨
      ∃ a s' es fs, Ends x s a s' es ∧ (f a).run s' = ⟨.error e, s'', fs⟩ ∧ gs = es ++ fs := by
  rcases hx : x.run s with ⟨outcome, s', es⟩
  cases outcome with
  | error cause =>
    rw [run_bind_of_error f hx] at h
    cases h
    exact .inl rfl
  | ok a =>
    rw [run_bind_of_ok f hx] at h
    rcases hf : (f a).run s' with ⟨outcome, t, fs⟩
    rw [hf] at h
    cases h
    exact .inr ⟨a, s', es, fs, hx, hf, rfl⟩

/-- An act on a part of the state ends well only if it does so on the part. -/
theorem Ends.of_on {x : Act τ α} {part : σ → τ} {put : τ → σ → σ} {s s' : σ} {a : α}
    {es : List Event} (h : Ends (Act.on part put x) s a s' es) :
    ∃ t, Ends x (part s) a t es ∧ s' = put t s := by
  have ho := congrArg Step.outcome h
  have hs := congrArg Step.state h
  have he := congrArg Step.events h
  simp only [run, Act.on] at ho hs he
  refine ⟨(x (part s)).state, ?_, hs.symm⟩
  rw [Ends, run, ← ho, ← he]

/-- An act that ends well has no failure that could be changed. -/
theorem ends_mapFailure {x : Act σ α} {g : Failure → Failure} {s s' : σ} {a : α}
    {es : List Event} : Ends (mapFailure g x) s a s' es ↔ Ends x s a s' es := by
  simp only [Ends, run, mapFailure]
  rcases x s with ⟨outcome, t, fs⟩
  cases outcome with
  | ok b => rfl
  | error e => exact ⟨fun h => (by cases h), fun h => (by cases h)⟩

/-- Holds of an act that keeps a property of the state, however it ends. -/
def Keeps (P : σ → Prop) (x : Act σ α) : Prop := ∀ s, P s → P (x.run s).state

/-- Doing nothing keeps everything. -/
theorem keeps_done (P : σ → Prop) (a : α) : Keeps P (done a) := fun _ hs => hs

/-- A failure keeps everything. -/
theorem keeps_fail (P : σ → Prop) (e : Failure) : Keeps P (fail e : Act σ α) := fun _ hs => hs

/-- A change of the state keeps what the new state has. -/
theorem keeps_modify {P : σ → Prop} {f : σ → σ} (h : ∀ s, P s → P (f s)) : Keeps P (modify f) := h

/-- An event keeps everything. -/
theorem keeps_emit (P : σ → Prop) (e : Event) : Keeps P (emit e) := fun _ hs => hs

/-- Acts one after another keep what each of them keeps. -/
theorem Keeps.bind {P : σ → Prop} {x : Act σ α} {f : α → Act σ β} (hx : Keeps P x)
    (hf : ∀ a, Keeps P (f a)) : Keeps P (x >>= f) := by
  intro s hs
  have hk := hx s hs
  rcases h : x.run s with ⟨outcome, s', es⟩
  rw [h] at hk
  cases outcome with
  | error e =>
    rw [run_bind_of_error f h]
    exact hk
  | ok a =>
    rw [run_bind_of_ok f h]
    exact hf a s' hk

/-- An act that looks at the state first keeps what it keeps of the states with the property. -/
theorem keeps_gets_bind {P : σ → Prop} {g : σ → α} {f : α → Act σ β}
    (h : ∀ s, P s → P ((f (g s)).run s).state) : Keeps P (gets g >>= f) := h

/-- An act on a part of the state keeps what does not depend on that part. -/
theorem keeps_on {P : σ → Prop} {part : σ → τ} {put : τ → σ → σ} (x : Act τ α)
    (h : ∀ t s, P s → P (put t s)) : Keeps P (on part put x) :=
  fun s hs => h (x (part s)).state s hs

/-- An act for each element of a list keeps what it keeps for each element. -/
theorem keeps_forEach {P : σ → Prop} {f : α → Act σ Unit} (h : ∀ a, Keeps P (f a)) (l : List α) :
    Keeps P (forEach f l) := by
  induction l with
  | nil => exact keeps_done P ()
  | cons a rest ih => exact (h a).bind fun _ => ih

/-- An act may be exchanged for one that does the same, and so may what comes after it. -/
theorem run_bind_congr {x y : Act σ α} {f g : α → Act σ β} {s : σ} (hx : x.run s = y.run s)
    (hf : ∀ a, (f a).run (y.run s).state = (g a).run (y.run s).state) :
    (x >>= f).run s = (y >>= g).run s := by
  rcases h : y.run s with ⟨outcome, s', es⟩
  rw [h] at hx hf
  cases outcome with
  | error e => rw [run_bind_of_error f hx, run_bind_of_error g h]
  | ok a => rw [run_bind_of_ok f hx, run_bind_of_ok g h, hf a]

private theorem act_bind_assoc {γ : Type} (x : Act σ α) (f : α → Act σ β) (g : β → Act σ γ) :
    x >>= f >>= g = x >>= fun a => f a >>= g := by
  funext s
  simp only [bind, andThen]
  rcases x s with ⟨outcome, s', es⟩
  cases outcome with
  | error e => rfl
  | ok a =>
    simp only
    rcases f a s' with ⟨outcome, s'', fs⟩
    cases outcome with
    | error e => rfl
    | ok b => simp only [List.append_assoc]

private theorem act_bind_pure (x : Act σ α) : (x >>= fun a => pure a) = x := by
  funext s
  simp only [bind, andThen, pure, done]
  rcases x s with ⟨outcome, s', es⟩
  cases outcome with
  | error e => rfl
  | ok a => simp only [List.append_nil]

/-- How acts are grouped does not matter. -/
instance : LawfulMonad (Act σ) :=
  LawfulMonad.mk' (Act σ)
    (fun x => act_bind_pure x)
    (fun _ _ => rfl)
    (fun x f g => act_bind_assoc x f g)

/-- Acts for the elements of two lists follow each other. -/
theorem forEach_append (f : α → Act σ Unit) (xs ys : List α) :
    forEach f (xs ++ ys) = forEach f xs >>= fun _ => forEach f ys := by
  induction xs with
  | nil => rfl
  | cons a rest ih => rw [List.cons_append, forEach, forEach, ih, bind_assoc]

end SerialTerminal.Act
