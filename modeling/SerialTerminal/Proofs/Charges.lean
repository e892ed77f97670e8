import SerialTerminal.Proofs.Calls

/-!
# Accounts of failures

Collaborators answer from scripts, so for each site where one is asked, the failures that it will
still raise are known. `Act.Charges` says that an act uses up none of them as long as it ends well,
and one at most where it fails: the first one of a site, which is then what the act fails for.
-/

namespace SerialTerminal

/-- The failures that a script still holds. -/
def Script.failures {α : Type} (script : Script α) : List Failure :=
  script.filterMap fun
    | .error e => some e
    | .ok _ => none

namespace Act

variable {σ τ κ α β : Type}

/-- Says what was used up, for a failure that was raised at a site or at none: the first failure of
the site, or nothing. -/
inductive Spent (before after : κ → List Failure) : Option κ → Failure → Prop where
  | nothing (raw : Failure) (h : after = before) : Spent before after none raw
  | first (site : κ) (raw : Failure) (hsite : before site = raw :: after site)
      (hother : ∀ other, other ≠ site → after other = before other) :
      Spent before after (some site) raw

/-- Nothing is used up at two sites. -/
theorem Spent.eq_of_cons {before after : κ → List Failure} {site : Option κ} {raw e : Failure}
    {k : κ} (h : Spent before after site raw) (hk : before k = e :: after k) :
    site = some k ∧ raw = e := by
  cases h with
  | nothing _ h => exact absurd (hk.symm.trans (congrFun h k).symm) (List.cons_ne_self _ _)
  | first site _ hsite hother =>
    by_cases hs : k = site
    · subst hs
      exact ⟨rfl, (List.cons.inj (hsite.symm.trans hk)).1⟩
    · exact absurd (hk.symm.trans (hother k hs).symm) (List.cons_ne_self _ _)

/-- What was used up of failures that are changed on their way was used up of the failures
themselves. -/
theorem Spent.of_map [DecidableEq κ] {before after : κ → List Failure}
    {change : κ → Failure → Failure} {site : Option κ} {seen : Failure}
    (h : Spent (fun k => (before k).map (change k)) after site seen) :
    ∃ rest raw, Spent before rest site raw ∧ (∀ k, after k = (rest k).map (change k)) ∧
      seen = site.elim raw fun k => change k raw := by
  cases h with
  | nothing _ h => exact ⟨before, seen, .nothing seen rfl, congrFun h, rfl⟩
  | first site _ hsite hother =>
    obtain ⟨raw, later, hbefore, rfl, hlater⟩ := List.map_eq_cons_iff.mp hsite
    refine ⟨fun k => if k = site then later else before k, raw, .first site raw ?_ ?_, ?_, rfl⟩
    · simpa using hbefore
    · intro other ho
      simp [ho]
    · intro k
      by_cases hk : k = site
      · simp [hk, hlater]
      · simp [hk, hother k hk]

/-- Holds of an act that uses up a failure only where it fails for it. The relation says what a
failure that is raised at a site makes the act fail with. -/
structure Charges (pending : σ → κ → List Failure) (R : Option κ → Failure → Failure → Prop)
    (x : Act σ α) : Prop where
  ok : ∀ {s a s' es}, Ends x s a s' es → pending s' = pending s
  error : ∀ {s e s' es}, x.run s = ⟨.error e, s', es⟩ →
    ∃ site raw, R site raw e ∧ Spent (pending s) (pending s') site raw

variable {pending : σ → κ → List Failure} {R R' : Option κ → Failure → Failure → Prop}
  {x : Act σ α}

/-- An act that never fails and uses up nothing. -/
theorem charges_of_ends (h : ∀ s, ∃ a s' es, Ends x s a s' es ∧ pending s' = pending s) :
    Charges pending R x where
  ok := by
    intro s a s' es hx
    obtain ⟨b, t, fs, hy, hp⟩ := h s
    obtain ⟨_, rfl, _⟩ := hx.unique hy
    exact hp
  error := by
    intro s e s' es hx
    obtain ⟨b, t, fs, hy, _⟩ := h s
    rw [hy] at hx
    cases hx

/-- An event. -/
theorem charges_emit (e : Event) : Charges pending R (emit e) :=
  charges_of_ends fun s => ⟨(), s, [e], rfl, rfl⟩

/-- A look at the state. -/
theorem charges_gets (f : σ → α) : Charges pending R (gets f) :=
  charges_of_ends fun s => ⟨f s, s, [], rfl, rfl⟩

/-- Doing nothing. -/
theorem charges_done (a : α) : Charges pending R (done a) :=
  charges_of_ends fun s => ⟨a, s, [], rfl, rfl⟩

/-- A change that uses up nothing. -/
theorem charges_modify {f : σ → σ} (h : ∀ s, pending (f s) = pending s) :
    Charges pending R (modify f) :=
  charges_of_ends fun s => ⟨(), f s, [], rfl, h s⟩

/-- A failure that is raised at no site. -/
theorem charges_fail {raw e : Failure} (h : R none raw e) :
    Charges pending R (fail e : Act σ α) where
  ok hx := by cases hx
  error := by
    rintro s _ _ _ ⟨rfl, rfl, rfl⟩
    exact ⟨none, raw, h, .nothing raw rfl⟩

/-- Acts one after another. -/
theorem Charges.bind {f : α → Act σ β} (hx : Charges pending R x)
    (hf : ∀ a, Charges pending R (f a)) : Charges pending R (x >>= f) where
  ok := by
    intro s b s'' gs h
    obtain ⟨a, s', es, fs, hxs, hfs, _⟩ := h.of_bind
    exact ((hf a).ok hfs).trans (hx.ok hxs)
  error := by
    intro s e s'' gs h
    rcases of_bind_error h with hxs | ⟨a, s', es, fs, hxs, hfs, _⟩
    · exact hx.error hxs
    · rw [← hx.ok hxs]
      exact (hf a).error hfs

/-- An act whose failures are changed. -/
theorem Charges.mapFailure {g : Failure → Failure} (hx : Charges pending R x)
    (h : ∀ site raw e, R site raw e → R' site raw (g e)) :
    Charges pending R' (Act.mapFailure g x) where
  ok hm := hx.ok (ends_mapFailure.mp hm)
  error := by
    intro s e s' es hm
    simp only [run, Act.mapFailure] at hm
    rcases hxs : x s with ⟨outcome, t, fs⟩
    rw [hxs] at hm
    cases outcome with
    | ok a => cases hm
    | error cause =>
      cases hm
      obtain ⟨site, raw, hr, hspent⟩ := hx.error hxs
      exact ⟨site, raw, h _ _ _ hr, hspent⟩

/-- Holds if at each site the failures that are pending in the whole state are either those of a
part, or have nothing to do with it. -/
def Within (inner : τ → κ → List Failure) (outer : σ → κ → List Failure) (part : σ → τ)
    (put : τ → σ → σ) : Prop :=
  ∀ k, (∀ s, outer s k = inner (part s) k) ∧ (∀ t s, outer (put t s) k = inner t k) ∨
    (∀ t, inner t k = []) ∧ ∀ t s, outer (put t s) k = outer s k

section Part

variable {inner : τ → κ → List Failure} {part : σ → τ} {put : τ → σ → σ} {s : σ} {t : τ}

private theorem Within.eq (h : Within inner pending part put) {k : κ}
    (ht : inner t k = inner (part s) k) : pending (put t s) k = pending s k := by
  rcases h k with ⟨hs, hput⟩ | ⟨_, hput⟩
  · rw [hput, ht, hs]
  · exact hput t s

/-- What was used up in a part was used up in the whole. -/
theorem Within.spent (h : Within inner pending part put) {site : Option κ} {raw : Failure}
    (hspent : Spent (inner (part s)) (inner t) site raw) :
    Spent (pending s) (pending (put t s)) site raw := by
  cases hspent with
  | nothing _ ht => exact .nothing raw (funext fun k => h.eq (congrFun ht k))
  | first site _ hsite hother =>
    refine .first site raw ?_ fun k hk => h.eq (hother k hk)
    rcases h site with ⟨hs, hput⟩ | ⟨hnone, _⟩
    · rw [hs, hput, hsite]
    · rw [hnone] at hsite
      cases hsite

end Part

/-- An act on a part of the state. -/
theorem Charges.on {inner : τ → κ → List Failure} {x : Act τ α} {part : σ → τ} {put : τ → σ → σ}
    (hx : Charges inner R x) (h : Within inner pending part put) :
    Charges pending R (Act.on part put x) where
  ok := by
    intro s a s' es ho
    obtain ⟨t, ht, rfl⟩ := ho.of_on
    exact funext fun k => h.eq (congrFun (hx.ok ht) k)
  error := by
    intro s e s' es ho
    simp only [run, Act.on] at ho
    rcases hxs : x (part s) with ⟨outcome, t, fs⟩
    rw [hxs] at ho
    cases ho
    obtain ⟨site, raw, hr, hspent⟩ := hx.error hxs
    exact ⟨site, raw, hr, h.spent hspent⟩

/-- What is made of such calls. -/
theorem MadeOf.charges {IsCall : (α : Type) → Act σ α → Prop} (hx : MadeOf IsCall α x)
    (h : ∀ (β : Type) (y : Act σ β), IsCall β y → Charges pending R y) : Charges pending R x := by
  induction hx with
  | call hc => exact h _ _ hc
  | done a => exact charges_done a
  | bind _ _ ihx ihf => exact ihx.bind ihf

section Script

variable [DecidableEq κ]

/-- The failures of a script that is asked at a site. -/
def pendingAt (site : κ) (script : Script α) (k : κ) : List Failure :=
  if k = site then script.failures else []

/-- The front of a script may be a failure or not. -/
theorem spent_pendingAt (site : κ) (e : Failure) (rest : Script α) :
    Spent (pendingAt site (.error e :: rest)) (pendingAt site rest) (some site) e := by
  refine .first site e (by simp [pendingAt, Script.failures]) fun k hk => ?_
  rw [pendingAt, pendingAt, if_neg hk, if_neg hk]

/-- An answer. -/
theorem charges_next (site : κ) (h : ∀ e, R (some site) e e) (default : α) :
    Charges (pendingAt site) R (Script.next default) where
  ok := by
    intro script a rest es hx
    rcases script with _ | ⟨_ | b, later⟩ <;> cases hx
    · rfl
    · rfl
  error := by
    intro script e rest es hx
    rcases script with _ | ⟨e' | b, later⟩ <;> cases hx
    exact ⟨some site, e, h e, spent_pendingAt site e rest⟩

/-- A chunk that is read. -/
theorem charges_nextChunk (site : κ) (h : ∀ e, R (some site) e e) (limit : Nat) :
    Charges (pendingAt site) R (Script.nextChunk limit) where
  ok := by
    intro script a rest es hx
    rcases script with _ | ⟨_ | held, later⟩ <;> cases hx
    · rfl
    · split <;> rfl
  error := by
    intro script e rest es hx
    rcases script with _ | ⟨e' | held, later⟩ <;> cases hx
    exact ⟨some site, e, h e, spent_pendingAt site e rest⟩

end Script

end Act

end SerialTerminal
