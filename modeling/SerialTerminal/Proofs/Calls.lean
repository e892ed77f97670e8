import SerialTerminal.Proofs.Act

/-!
# Acts made of calls

Long acts are put together from a few short ones, their calls. `Act.MadeOf` says so of an act. What
holds of all calls of a kind and of acts one after another then holds of every act that is made of
such calls. Two properties of this sort are:

* `Act.Emits`: the events are of one kind, however the act ends;
* `Act.Ignores`: an act that ends well does the same where a part of the state is erased.

`Act.Blind` says the latter also of an act that fails, from states with a property. `Act.Causes`
tells all events of an act that ends well.
-/

namespace SerialTerminal.Act

variable {σ τ α β : Type}

section Emits

/-- Holds of an act whose events are all of one kind, however it ends. -/
def Emits (p : Event → Bool) (x : Act σ α) : Prop := ∀ s, ∀ e ∈ (x.run s).events, p e

variable {p : Event → Bool} {x : Act σ α}

/-- An act without events. -/
theorem emits_of_silent (h : ∀ s, (x.run s).events = []) : Emits p x := by
  intro s e he
  rw [h s] at he
  exact absurd he List.not_mem_nil

/-- Answers come without events. -/
theorem emits_next (p : Event → Bool) (default : α) : Emits p (Script.next default) := by
  apply emits_of_silent
  intro script
  cases script <;> rfl

/-- An event of the kind. -/
theorem emits_emit {e : Event} (h : p e) : Emits p (emit e : Act σ Unit) := by
  intro s e' he
  rwa [List.mem_singleton.mp he]

/-- Acts one after another. -/
theorem Emits.bind {f : α → Act σ β} (hx : Emits p x) (hf : ∀ a, Emits p (f a)) :
    Emits p (x >>= f) := by
  intro s e he
  have hs := hx s
  rcases h : x.run s with ⟨outcome, s', es⟩
  rw [h] at hs
  cases outcome with
  | error cause =>
    rw [run_bind_of_error f h] at he
    exact hs e he
  | ok a =>
    rw [run_bind_of_ok f h] at he
    exact (List.mem_append.mp he).elim (hs e) (hf a s' e)

/-- An act on a part of the state. -/
theorem Emits.on {x : Act τ α} (hx : Emits p x) (part : σ → τ) (put : τ → σ → σ) :
    Emits p (Act.on part put x) := fun s => hx (part s)

/-- An act whose failures are changed. -/
theorem Emits.mapFailure (hx : Emits p x) (g : Failure → Failure) :
    Emits p (Act.mapFailure g x) := hx

/-- An act that is attempted. -/
theorem Emits.attempt (hx : Emits p x) : Emits p (Act.attempt x) := hx

/-- A wider kind. -/
theorem Emits.mono {q : Event → Bool} (hx : Emits p x) (h : ∀ e, p e → q e) : Emits q x :=
  fun s e he => h e (hx s e he)

/-- The events of acts one after another are those of the first one, and some of the second. -/
theorem exists_events_bind (x : Act σ α) {f : α → Act σ β} (hf : ∀ a, Emits p (f a)) (s : σ) :
    ∃ es, ((x >>= f).run s).events = (x.run s).events ++ es ∧ ∀ e ∈ es, p e := by
  rcases h : x.run s with ⟨outcome, s', es⟩
  cases outcome with
  | error e =>
    rw [run_bind_of_error f h]
    exact ⟨[], (List.append_nil es).symm, fun _ he => absurd he List.not_mem_nil⟩
  | ok a =>
    rw [run_bind_of_ok f h]
    exact ⟨_, rfl, hf a s'⟩

/-- The events of a run are of the kind. -/
theorem Emits.all {s s' : σ} {a : α} {es : List Event} (hx : Emits p x) (h : Ends x s a s' es) :
    ∀ e ∈ es, p e := by
  have hs := hx s
  rw [h] at hs
  exact hs

end Emits

section Ignores

/-- Holds of an act that, when it ends well, does the same where a part of the state is erased. -/
def Ignores (erase : σ → σ) (x : Act σ α) : Prop :=
  ∀ s a s' es, Ends x s a s' es → Ends x (erase s) a (erase s') es

variable {erase : σ → σ} {x : Act σ α}

/-- Doing nothing. -/
theorem ignores_done (a : α) : Ignores erase (done a) := by
  rintro s _ _ _ ⟨rfl, rfl, rfl⟩
  rfl

/-- What fails never ends well. -/
theorem ignores_fail (e : Failure) : Ignores erase (fail e : Act σ α) := by
  intro s a s' es h
  cases h

/-- An event. -/
theorem ignores_emit (e : Event) : Ignores erase (emit e) := by
  rintro s _ _ _ ⟨rfl, rfl, rfl⟩
  rfl

/-- A change of what is not erased. -/
theorem ignores_modify {f : σ → σ} (h : ∀ s, f (erase s) = erase (f s)) :
    Ignores erase (modify f) := by
  rintro s _ _ _ ⟨rfl, rfl, rfl⟩
  rw [← h]
  rfl

/-- A look at what is not erased. -/
theorem ignores_gets {g : σ → α} (h : ∀ s, g (erase s) = g s) : Ignores erase (gets g) := by
  rintro s _ _ _ ⟨rfl, rfl, rfl⟩
  rw [← h]
  rfl

/-- Acts one after another. -/
theorem Ignores.bind {f : α → Act σ β} (hx : Ignores erase x) (hf : ∀ a, Ignores erase (f a)) :
    Ignores erase (x >>= f) := by
  intro s b s'' gs h
  obtain ⟨a, s', es, fs, hxs, hfs, rfl⟩ := h.of_bind
  exact (hx _ _ _ _ hxs).bind (hf a _ _ _ _ hfs)

/-- An act on a part of the state, of which something is erased. -/
theorem Ignores.on {inner : τ → τ} {x : Act τ α} (hx : Ignores inner x) {part : σ → τ}
    {put : τ → σ → σ} (hpart : ∀ s, part (erase s) = inner (part s))
    (hput : ∀ t s, put (inner t) (erase s) = erase (put t s)) :
    Ignores erase (Act.on part put x) := by
  intro s a s' es h
  obtain ⟨t, ht, rfl⟩ := h.of_on
  have hi := hx _ _ _ _ ht
  rw [← hpart] at hi
  rw [← hput]
  exact hi.on

/-- An act for each element of a list. -/
theorem ignores_forEach {f : α → Act σ Unit} (h : ∀ a, Ignores erase (f a)) (l : List α) :
    Ignores erase (forEach f l) := by
  induction l with
  | nil => exact ignores_done ()
  | cons a rest ih => exact (h a).bind fun _ => ih

end Ignores

section Blind

variable {P : σ → Prop} {erase : σ → σ}

/-- Holds of an act that, from the states with a property, keeps the property and does the same
where a part of the state is erased, however it ends. -/
def Blind (P : σ → Prop) (erase : σ → σ) (x : Act σ α) : Prop :=
  ∀ s, P s → P (x.run s).state ∧
    x.run (erase s) = ⟨(x.run s).outcome, erase (x.run s).state, (x.run s).events⟩

/-- Doing nothing. -/
theorem blind_done (a : α) : Blind P erase (done a) := fun _ hs => ⟨hs, rfl⟩

/-- A failure. -/
theorem blind_fail (e : Failure) : Blind P erase (fail e : Act σ α) := fun _ hs => ⟨hs, rfl⟩

/-- An event. -/
theorem blind_emit (e : Event) : Blind P erase (emit e) := fun _ hs => ⟨hs, rfl⟩

/-- A change of what is not erased. -/
theorem blind_modify {f : σ → σ} (hP : ∀ s, P s → P (f s)) (h : ∀ s, f (erase s) = erase (f s)) :
    Blind P erase (modify f) := by
  intro s hs
  refine ⟨hP s hs, ?_⟩
  change (⟨.ok (), f (erase s), []⟩ : Step σ Unit) = _
  rw [h]
  rfl

/-- An act on a part of the state of which nothing is erased. -/
theorem blind_on (x : Act τ α) {part : σ → τ} {put : τ → σ → σ}
    (hP : ∀ t s, P s → P (put t s)) (hpart : ∀ s, part (erase s) = part s)
    (hput : ∀ t s, put t (erase s) = erase (put t s)) : Blind P erase (Act.on part put x) := by
  intro s hs
  refine ⟨hP _ s hs, ?_⟩
  change (⟨_, put (x (part (erase s))).state (erase s), _⟩ : Step σ α) = _
  rw [hpart, hput]
  rfl

/-- Acts one after another. -/
theorem Blind.bind {x : Act σ α} {f : α → Act σ β} (hx : Blind P erase x)
    (hf : ∀ a, Blind P erase (f a)) : Blind P erase (x >>= f) := by
  intro s hs
  obtain ⟨hs', he⟩ := hx s hs
  rcases h : x.run s with ⟨outcome, s', es⟩
  rw [h] at hs' he
  cases outcome with
  | error e =>
    rw [run_bind_of_error f h, run_bind_of_error f he]
    exact ⟨hs', rfl⟩
  | ok a =>
    obtain ⟨hs'', hf'⟩ := hf a s' hs'
    rw [run_bind_of_ok f h, run_bind_of_ok f he, hf']
    exact ⟨hs'', rfl⟩

/-- A look at what is not erased comes first. -/
theorem blind_gets_bind {g : σ → α} {f : α → Act σ β} (hg : ∀ s, g (erase s) = g s)
    (hf : ∀ s, P s → Blind P erase (f (g s))) : Blind P erase (gets g >>= f) := by
  intro s hs
  obtain ⟨hs', he⟩ := hf s hs s hs
  refine ⟨hs', ?_⟩
  change (f (g (erase s))).run (erase s) = _
  rw [hg, he]
  rfl

/-- An act for each element of a list. -/
theorem blind_forEach {f : α → Act σ Unit} (h : ∀ a, Blind P erase (f a)) (l : List α) :
    Blind P erase (forEach f l) := by
  induction l with
  | nil => exact blind_done ()
  | cons a rest ih => exact (h a).bind fun _ => ih

/-- From states that differ in what is erased an act ends in the same way. -/
theorem Blind.congr {x : Act σ α} (hx : Blind P erase x) {s t : σ} (hs : P s) (ht : P t)
    (h : erase s = erase t) :
    (x.run s).outcome = (x.run t).outcome ∧ (x.run s).events = (x.run t).events ∧
      erase (x.run s).state = erase (x.run t).state := by
  have hst := (hx s hs).2.symm.trans ((congrArg x.run h).trans (hx t ht).2)
  obtain ⟨houtcome, hstate, hevents⟩ := Step.mk.inj hst
  exact ⟨houtcome, hevents, hstate⟩

end Blind

section MadeOf

/-- Holds of the acts that are put together from calls. -/
inductive MadeOf (IsCall : (α : Type) → Act σ α → Prop) : (α : Type) → Act σ α → Prop where
  | call {α : Type} {x : Act σ α} (h : IsCall α x) : MadeOf IsCall α x
  | done {α : Type} (a : α) : MadeOf IsCall α (Act.done a)
  | bind {α β : Type} {x : Act σ α} {f : α → Act σ β} (hx : MadeOf IsCall α x)
      (hf : ∀ a, MadeOf IsCall β (f a)) : MadeOf IsCall β (x >>= f)

variable {IsCall : (α : Type) → Act σ α → Prop} {x : Act σ α}

/-- An act for each element of a list. -/
theorem madeOf_forEach {f : α → Act σ Unit} (h : ∀ a, MadeOf IsCall Unit (f a)) (l : List α) :
    MadeOf IsCall Unit (forEach f l) := by
  induction l with
  | nil => exact .done ()
  | cons a rest ih => exact (h a).bind fun _ => ih

/-- Calls of one kind may be calls of another one. -/
theorem MadeOf.mono {IsOther : (α : Type) → Act σ α → Prop} (hx : MadeOf IsCall α x)
    (h : ∀ (β : Type) (y : Act σ β), IsCall β y → IsOther β y) : MadeOf IsOther α x := by
  induction hx with
  | call hc => exact .call (h _ _ hc)
  | done a => exact .done a
  | bind _ _ ihx ihf => exact ihx.bind ihf

/-- What all calls keep is kept. -/
theorem MadeOf.keeps {P : σ → Prop} (hx : MadeOf IsCall α x)
    (h : ∀ (β : Type) (y : Act σ β), IsCall β y → Keeps P y) : Keeps P x := by
  induction hx with
  | call hc => exact h _ _ hc
  | done a => exact keeps_done P a
  | bind _ _ ihx ihf => exact ihx.bind ihf

/-- The events are of one kind if those of the calls are. -/
theorem MadeOf.emits {p : Event → Bool} (hx : MadeOf IsCall α x)
    (h : ∀ (β : Type) (y : Act σ β), IsCall β y → Emits p y) : Emits p x := by
  induction hx with
  | call hc => exact h _ _ hc
  | done a => exact emits_of_silent fun _ => rfl
  | bind _ _ ihx ihf => exact ihx.bind ihf

/-- What the calls ignore is ignored. -/
theorem MadeOf.ignores {erase : σ → σ} (hx : MadeOf IsCall α x)
    (h : ∀ (β : Type) (y : Act σ β), IsCall β y → Ignores erase y) : Ignores erase x := by
  induction hx with
  | call hc => exact h _ _ hc
  | done a => exact ignores_done a
  | bind _ _ ihx ihf => exact ihx.bind ihf

/-- An act ends well from a state with a property if from each such state all calls do and keep the
property. -/
theorem MadeOf.exists_ends_keeping {P : σ → Prop} (hx : MadeOf IsCall α x)
    (h : ∀ (β : Type) (y : Act σ β), IsCall β y → ∀ s, P s → ∃ b s' es, Ends y s b s' es ∧ P s')
    (s : σ) (hs : P s) : ∃ a s' es, Ends x s a s' es ∧ P s' := by
  induction hx generalizing s with
  | call hc => exact h _ _ hc s hs
  | done a => exact ⟨a, s, [], ends_done a s, hs⟩
  | bind _ _ ihx ihf =>
    obtain ⟨a, s', es, hxs, hs'⟩ := ihx s hs
    obtain ⟨b, s'', fs, hfs, hs''⟩ := ihf a s' hs'
    exact ⟨b, s'', es ++ fs, hxs.bind hfs, hs''⟩

end MadeOf

section Causes

/-- Holds of an act that, when it ends well, causes given events. -/
def Causes (x : Act σ α) (es : List Event) : Prop := ∀ s a s' fs, Ends x s a s' fs → fs = es

variable {x : Act σ α} {es fs : List Event}

/-- Doing nothing causes nothing. -/
theorem causes_done (a : α) : Causes (done a : Act σ α) [] := by
  rintro s _ _ _ ⟨rfl, rfl, rfl⟩
  rfl

/-- Answers come without events. -/
theorem causes_next (default : α) : Causes (Script.next default) [] := by
  intro script a rest es h
  cases script <;> exact (congrArg Step.events h).symm

/-- What fails never ends well. -/
theorem causes_fail (e : Failure) (es : List Event) : Causes (fail e : Act σ α) es := by
  intro s a s' fs h
  cases h

/-- An event. -/
theorem causes_emit (e : Event) : Causes (emit e : Act σ Unit) [e] := by
  rintro s _ _ _ ⟨rfl, rfl, rfl⟩
  rfl

/-- Acts one after another. -/
theorem Causes.bind {f : α → Act σ β} (hx : Causes x es) (hf : ∀ a, Causes (f a) fs) :
    Causes (x >>= f) (es ++ fs) := by
  intro s b s'' gs h
  obtain ⟨a, s', es', fs', hxs, hfs, rfl⟩ := h.of_bind
  rw [hx _ _ _ _ hxs, hf a _ _ _ _ hfs]

/-- An act on a part of the state. -/
theorem Causes.on {x : Act τ α} (hx : Causes x es) (part : σ → τ) (put : τ → σ → σ) :
    Causes (Act.on part put x) es := by
  intro s a s' fs h
  obtain ⟨t, ht, _⟩ := h.of_on
  exact hx _ _ _ _ ht

/-- An act for each element of a list. -/
theorem causes_forEach {f : α → Act σ Unit} {g : α → List Event} (h : ∀ a, Causes (f a) (g a))
    (l : List α) : Causes (forEach f l) (l.flatMap g) := by
  induction l with
  | nil => exact causes_done ()
  | cons a rest ih => exact (h a).bind fun _ => ih

end Causes

end SerialTerminal.Act
