import SerialTerminal.Proofs.Attempts
import SerialTerminal.Proofs.Terminal.Directions

/-!
# End of the keyboard

The keyboard ends once and for good. A terminal watches it up to the first read that gives nothing;
from then on nothing is read from it and nothing is sent, whatever fails in between. The line is
watched and served all along, also in the round that finds the end (`keyboard_ends_once`).

This takes a wait that reports watched handles only: the terminal itself does not look at whether
the keyboard is still open.
-/

namespace SerialTerminal

/-- Holds of what a terminal does for the keyboard's sake. -/
def Event.isKeyboardSide : Event → Bool
  | .read .keyboard _ | .written _ | .flushed | .slept _ | .unwatched _ => true
  | _ => false

/-- The handles that a wait reports. -/
def Wait.reported : Wait → List Handle
  | .ok ready => ready
  | .error _ => []

namespace Terminal

open Act

/-- Holds of a terminal that watches the line, and the keyboard as long as it is open. -/
structure Watching (t : Terminal) : Prop where
  keyboard : .keyboard ∈ t.watchSet.members ↔ t.keyboardOpen
  line : .line ∈ t.watchSet.members
  nodup : t.watchSet.members.Nodup

/-- Holds of events that leave the keyboard and sending alone. The line is read once if it was
reported. -/
structure Aside (reported : List Handle) (es : List Event) : Prop where
  keyboard : ∀ e ∈ es, !e.isKeyboardSide
  line : es.count (.read .line readLimit) = if .line ∈ reported then 1 else 0

/-- A round of a terminal, which may fail. -/
abbrev Round : Type := Attempt Wait Terminal

/-- Rounds one after another. A round that fails is not the last one. -/
abbrev rounds (t : Terminal) (waits : List Wait) : List Round := attempts poll t waits

namespace Round

/-- Holds of a round whose wait reports watched handles only. -/
def Reliable (r : Round) : Prop :=
  ∀ handle ∈ r.input.reported, handle ∈ r.before.watchSet.members

instance (r : Round) : Decidable r.Reliable :=
  inferInstanceAs (Decidable (∀ handle ∈ r.input.reported, handle ∈ r.before.watchSet.members))

/-- Holds of a round that reads the keyboard and gets nothing. -/
def FindsEnd (r : Round) : Prop :=
  .keyboard ∈ r.input.reported ∧
    ((Outbound.read readLimit).run r.before.outbound).outcome = .ok []

/-- A round while the keyboard goes on. -/
structure GoesOn (r : Round) : Prop where
  openBefore : r.before.keyboardOpen
  openAfter : r.after.keyboardOpen
  noEnd : ¬ r.FindsEnd
  watched : ∀ handle, .unwatched handle ∉ r.step.events

/-- The round that finds the end of the keyboard. It ceases to watch it. -/
structure Ends (r : Round) : Prop where
  openBefore : r.before.keyboardOpen
  closedAfter : ¬ r.after.keyboardOpen
  foundEnd : r.FindsEnd
  events : ∃ es, r.step.events = .read .keyboard readLimit :: .unwatched .keyboard :: es ∧
    Aside r.input.reported es

/-- A round after the end of the keyboard. -/
structure Follows (r : Round) : Prop where
  closedBefore : ¬ r.before.keyboardOpen
  closedAfter : ¬ r.after.keyboardOpen
  events : Aside r.input.reported r.step.events

end Round

section Halves

variable {t : Terminal} {ready : List Handle}

/-- Holds of the terminals with the same watched handles, whose keyboard is open as well or not. -/
private def Likewise (t t' : Terminal) : Prop :=
  t'.keyboardOpen = t.keyboardOpen ∧ t'.watchSet = t.watchSet

private theorem keeps_onOutbound {α : Type} (t : Terminal) (x : Act Outbound α) :
    Keeps (Likewise t) (onOutbound x) := keeps_on x fun _ _ h => h

private theorem keeps_onInbound {α : Type} (t : Terminal) (x : Act Inbound α) :
    Keeps (Likewise t) (onInbound x) := keeps_on x fun _ _ h => h

private theorem aside_serveLine (t : Terminal) (ready : List Handle) :
    let step := (if .line ∈ ready then serveLine else done ()).run t
    Likewise t step.state ∧ Aside ready step.events := by
  by_cases h : .line ∈ ready
  · simp only [if_pos h]
    refine ⟨?_, ?_⟩
    · have hkeeps : Keeps (Likewise t) serveLine :=
        (keeps_onInbound t _).bind fun _ => keeps_onInbound t _
      exact hkeeps t ⟨rfl, rfl⟩
    · have hrender (data : List UInt8) : Emits Event.isDisplay (onInbound (Inbound.render data)) :=
        (((Viewer.emits_of_madeOf (Viewer.madeOf_feed_flush data)).on _ _).mapFailure _).on _ _
      obtain ⟨es, hes, hdisplay⟩ := exists_events_bind _ hrender t
      rw [run_readLine] at hes
      have hread : .read .line readLimit ∉ es := fun hr => absurd (hdisplay _ hr) (by decide)
      rw [serveLine, hes]
      refine ⟨?_, ?_⟩
      · rw [List.singleton_append, List.forall_mem_cons]
        refine ⟨rfl, fun e he => ?_⟩
        have hd := hdisplay e he
        cases e <;> first | rfl | cases hd
      · rw [if_pos h, List.singleton_append, List.count_cons_self, List.count_eq_zero.mpr hread]
  · simp only [if_neg h]
    exact ⟨⟨rfl, rfl⟩, fun _ he => absurd he List.not_mem_nil, by rw [if_neg h]; rfl⟩

private theorem Likewise.trans {t₁ t₂ t₃ : Terminal} (h : Likewise t₁ t₂) (h' : Likewise t₂ t₃) :
    Likewise t₁ t₃ := ⟨h'.1.trans h.1, h'.2.trans h.2⟩

private theorem Likewise.watching {t' : Terminal} (h : Likewise t t') (ht : t.Watching) :
    t'.Watching := by
  obtain ⟨hopen, hset⟩ := h
  exact ⟨by rw [hset, hopen]; exact ht.keyboard, by rw [hset]; exact ht.line,
    by rw [hset]; exact ht.nodup⟩

/-- A keyboard that gives something stays watched, and so does one whose read fails. -/
private theorem likewise_serveKeyboard
    (h : ((Outbound.read readLimit).run t.outbound).outcome ≠ .ok []) :
    Likewise t (serveKeyboard.run t).state ∧
      ∀ handle, .unwatched handle ∉ (serveKeyboard.run t).events := by
  have hread := run_readKeyboard t
  rcases houtcome : ((Outbound.read readLimit).run t.outbound).outcome with e | data
  · rw [houtcome] at hread
    rw [serveKeyboard, run_bind_of_error _ hread]
    exact ⟨⟨rfl, rfl⟩, by simp⟩
  · rw [houtcome] at hread h
    have hdata : data.isEmpty = false := by
      cases data with
      | nil => exact absurd rfl h
      | cons => rfl
    have hsend : Emits Event.isSending (onOutbound (Outbound.send data)) :=
      (Emits.bind (emits_of_silent fun _ => rfl) fun transmitter =>
        (Transmitter.emits_of_madeOf (transmitter.madeOf_send data)).on _ _).on _ _
    rw [serveKeyboard, run_bind_of_ok _ hread]
    simp only [hdata, Bool.false_eq_true, ↓reduceIte]
    refine ⟨keeps_onOutbound t _ _ ⟨rfl, rfl⟩, fun handle hmem => ?_⟩
    rcases List.mem_append.mp hmem with hr | hs
    · simp at hr
    · have hkind : Event.isSending (.unwatched handle) := hsend _ _ hs
      cases hkind

/-- The state that the end of a watched keyboard leaves. -/
private def ended (t : Terminal) : Terminal :=
  { t with
    outbound := ((Outbound.read readLimit).run t.outbound).state
    keyboardOpen := false
    watchSet := { t.watchSet with members := t.watchSet.members.erase .keyboard } }

/-- A watched keyboard that gives nothing is not watched any more. -/
private theorem ends_serveKeyboard (ht : .keyboard ∈ t.watchSet.members)
    (h : ((Outbound.read readLimit).run t.outbound).outcome = .ok []) :
    Ends serveKeyboard t () (ended t)
      [.read .keyboard readLimit, .unwatched .keyboard,
        .record .info "console input closed, relaying serial output only"] := by
  have hread := run_readKeyboard t
  rw [h] at hread
  have hmembers : Ends (gets WatchSet.members) t.watchSet t.watchSet.members t.watchSet [] := rfl
  have hunwatch : Ends (WatchSet.unwatch .keyboard) t.watchSet ()
      { t.watchSet with members := t.watchSet.members.erase .keyboard } [.unwatched .keyboard] := by
    apply Ends.bind hmembers
    rw [if_pos ht]
    exact (ends_emit _ _).bind (ends_modify _ _)
  let read : Terminal := { t with outbound := ((Outbound.read readLimit).run t.outbound).state }
  have hset : Ends (onWatchSet (WatchSet.unwatch .keyboard)) read () _ [.unwatched .keyboard] :=
    Ends.on hunwatch
  have hend : Ends endKeyboard read () (ended t) [.unwatched .keyboard,
      .record .info "console input closed, relaying serial output only"] :=
    hset.bind ((ends_modify _ _).bind (ends_emit _ _))
  exact Ends.bind hread hend

end Halves

section Rounds

variable {t : Terminal} {wait : Wait}

/-- A round that does not serve the keyboard leaves it alone. -/
private theorem aside_poll (h : .keyboard ∉ wait.reported) :
    Likewise t ((poll wait).run t).state ∧ Aside wait.reported ((poll wait).run t).events := by
  cases wait with
  | ok ready =>
    have hkeyboard : .keyboard ∉ ready := h
    have hserve : serve ready = if .line ∈ ready then serveLine else done () := by
      rw [serve_eq, if_neg hkeyboard]
      rfl
    rw [poll, hserve]
    exact aside_serveLine t ready
  | error e =>
    rw [poll]
    split
    · refine ⟨⟨rfl, rfl⟩, fun e he => ?_, rfl⟩
      rw [List.mem_singleton.mp he]
      rfl
    · exact ⟨⟨rfl, rfl⟩, fun _ he => absurd he List.not_mem_nil, rfl⟩

private theorem Aside.unwatched {reported : List Handle} {es : List Event}
    (h : Aside reported es) (handle : Handle) : .unwatched handle ∉ es :=
  fun hmem => absurd (h.keyboard _ hmem) Bool.false_ne_true

private theorem Aside.record {reported : List Handle} {es : List Event}
    (h : Aside reported es) (severity : Severity) (text : String) :
    Aside reported (.record severity text :: es) where
  keyboard := List.forall_mem_cons.mpr ⟨rfl, h.keyboard⟩
  line := (List.count_cons_of_ne Event.noConfusion).trans h.line

/-- A round that serves a keyboard which gives something, or fails. -/
private theorem likewise_poll {ready : List Handle} (hready : .keyboard ∈ ready)
    (h : ((Outbound.read readLimit).run t.outbound).outcome ≠ .ok []) :
    Likewise t ((poll (.ok ready)).run t).state ∧
      ∀ handle, .unwatched handle ∉ ((poll (.ok ready)).run t).events := by
  obtain ⟨hstate, hevents⟩ := likewise_serveKeyboard h
  rw [poll, serve_eq, if_pos hready]
  rcases hrun : serveKeyboard.run t with ⟨e | _, t', es⟩
  · rw [hrun] at hstate hevents
    rw [run_bind_of_error _ hrun]
    exact ⟨hstate, hevents⟩
  · rw [hrun] at hstate hevents
    rw [run_bind_of_ok _ hrun]
    obtain ⟨hline, haside⟩ := aside_serveLine t' ready
    refine ⟨hstate.trans hline, fun handle hmem => ?_⟩
    exact (List.mem_append.mp hmem).elim (hevents handle) (haside.unwatched handle)

/-- A round that serves a keyboard which has ended. -/
private theorem ended_poll {ready : List Handle} (ht : .keyboard ∈ t.watchSet.members)
    (hready : .keyboard ∈ ready)
    (h : ((Outbound.read readLimit).run t.outbound).outcome = .ok []) :
    Likewise (ended t) ((poll (.ok ready)).run t).state ∧
      ∃ es, ((poll (.ok ready)).run t).events =
        .read .keyboard readLimit :: .unwatched .keyboard :: es ∧ Aside ready es := by
  rw [poll, serve_eq, if_pos hready, run_bind_of_ok _ (ends_serveKeyboard ht h)]
  obtain ⟨hline, haside⟩ := aside_serveLine (ended t) ready
  exact ⟨hline, _, rfl, haside.record _ _⟩

private theorem Watching.ended (h : t.Watching) : t.ended.Watching where
  keyboard := ⟨fun hmem => absurd hmem h.nodup.not_mem_erase, fun hopen => by cases hopen⟩
  line := (List.mem_erase_of_ne (by decide)).mpr h.line
  nodup := show (t.watchSet.members.erase .keyboard).Nodup from h.nodup.erase .keyboard

/-- A round of a terminal whose keyboard is open: it goes on or ends. -/
private theorem round_of_open (wait : Wait) (ht : t.Watching) (hopen : t.keyboardOpen) :
    (Round.GoesOn (.make poll t wait) ∨ Round.Ends (.make poll t wait)) ∧
      (Attempt.make poll t wait).after.Watching := by
  by_cases hready : .keyboard ∈ wait.reported
  · obtain ⟨ready, rfl⟩ : ∃ ready, wait = .ok ready := by
      cases wait with
      | ok ready => exact ⟨ready, rfl⟩
      | error e => exact absurd hready List.not_mem_nil
    by_cases hend : ((Outbound.read readLimit).run t.outbound).outcome = .ok []
    · obtain ⟨hstate, hevents⟩ := ended_poll (ht.keyboard.mpr hopen) hready hend
      refine ⟨.inr ⟨hopen, ?_, ⟨hready, hend⟩, hevents⟩, hstate.watching ht.ended⟩
      exact fun hafter => absurd (hstate.1.symm.trans hafter) Bool.false_ne_true
    · obtain ⟨hstate, hevents⟩ := likewise_poll hready hend
      exact ⟨.inl ⟨hopen, hstate.1.trans hopen, fun h => hend h.2, hevents⟩, hstate.watching ht⟩
  · obtain ⟨hstate, hevents⟩ := aside_poll (t := t) hready
    refine ⟨.inl ⟨hopen, hstate.1.trans hopen, fun h => hready h.1, ?_⟩, hstate.watching ht⟩
    exact fun handle => hevents.unwatched handle

/-- A round of a terminal whose keyboard has ended. -/
private theorem round_of_closed (ht : t.Watching) (hclosed : ¬ t.keyboardOpen)
    (hwait : Round.Reliable (.make poll t wait)) :
    Round.Follows (.make poll t wait) ∧ (Attempt.make poll t wait).after.Watching := by
  have hready : .keyboard ∉ wait.reported :=
    fun hmem => hclosed (ht.keyboard.mp (hwait .keyboard hmem))
  obtain ⟨hstate, hevents⟩ := aside_poll (t := t) hready
  exact ⟨⟨hclosed, fun h => hclosed (hstate.1.symm.trans h), hevents⟩, hstate.watching ht⟩

end Rounds

/-- What comes of rounds of a terminal. -/
structure EndsOnce (t : Terminal) (rs : List Round) : Prop where
  /-- The keyboard is watched as long as it is open, the line always. -/
  watching : t.Watching ∧ ∀ r ∈ rs, r.after.Watching
  /-- The keyboard goes on all the time, or one round finds its end. -/
  once : (∀ r ∈ rs, r.GoesOn) ∨
    ∃ earlier last later, rs = earlier ++ last :: later ∧
      (∀ r ∈ earlier, r.GoesOn) ∧ last.Ends ∧ ∀ r ∈ later, r.Follows

private theorem rounds_of_closed {t : Terminal} {waits : List Wait} (ht : t.Watching)
    (hclosed : ¬ t.keyboardOpen) (hwaits : ∀ r ∈ rounds t waits, r.Reliable) :
    ∀ r ∈ rounds t waits, r.Follows ∧ r.after.Watching ∧ ¬ r.after.keyboardOpen := by
  refine forall_attempts (P := fun t => t.Watching ∧ ¬ t.keyboardOpen) ⟨ht, hclosed⟩ hwaits ?_
  intro t wait ⟨ht, hclosed⟩ hwait
  obtain ⟨hfollows, hafter⟩ := round_of_closed ht hclosed hwait
  exact ⟨hfollows, hafter, hfollows.closedAfter⟩

private theorem endsOnce_rounds {t : Terminal} {waits : List Wait} (ht : t.Watching)
    (hopen : t.keyboardOpen) (hwaits : ∀ r ∈ rounds t waits, r.Reliable) :
    EndsOnce t (rounds t waits) := by
  induction waits generalizing t with
  | nil =>
    have hnone : ∀ {p : Round → Prop}, ∀ r ∈ rounds t [], p r :=
      fun r hr => absurd hr List.not_mem_nil
    exact ⟨⟨ht, hnone⟩, .inl hnone⟩
  | cons wait rest ih =>
    rw [rounds, attempts_cons] at hwaits ⊢
    rw [List.forall_mem_cons] at hwaits
    obtain ⟨hgoes | hends, hafter⟩ := round_of_open wait ht hopen
    · obtain ⟨hwatching, honce⟩ := ih hafter hgoes.openAfter hwaits.2
      refine ⟨⟨ht, List.forall_mem_cons.mpr hwatching⟩, ?_⟩
      rcases honce with hall | ⟨earlier, last, later, heq, hearlier, hlast⟩
      · exact .inl (List.forall_mem_cons.mpr ⟨hgoes, hall⟩)
      · rw [rounds] at heq
        rw [heq]
        refine .inr ⟨_ :: earlier, last, later, rfl, ?_, hlast⟩
        exact List.forall_mem_cons.mpr ⟨hgoes, hearlier⟩
    · have hlater := rounds_of_closed hafter hends.closedAfter hwaits.2
      refine ⟨⟨ht, List.forall_mem_cons.mpr ⟨hafter, fun r hr => (hlater r hr).2.1⟩⟩, ?_⟩
      exact .inr ⟨[], _, _, rfl, fun r hr => absurd hr List.not_mem_nil, hends,
        fun r hr => (hlater r hr).1⟩

private theorem watching_of_watchBoth {t₀ t : Terminal} {ws : List Event}
    (h : Ends watchBoth t₀ () t ws) (hset : t₀.watchSet.members.Nodup)
    (hopen : t₀.keyboardOpen) : t.Watching ∧ t.keyboardOpen := by
  obtain ⟨hmembers, ht⟩ := of_watchBoth h
  have hkept : t.keyboardOpen := by
    rw [ht]
    exact hopen
  have hkeyboard : (Handle.keyboard :: t₀.watchSet.members.erase .keyboard).Nodup :=
    List.nodup_cons.mpr ⟨hset.not_mem_erase, hset.erase .keyboard⟩
  refine ⟨⟨⟨fun _ => hkept, fun _ => ?_⟩, ?_, ?_⟩, hkept⟩
  · rw [hmembers]
    exact List.mem_cons_of_mem _
      ((List.mem_erase_of_ne Handle.noConfusion).mpr List.mem_cons_self)
  · rw [hmembers]
    exact List.mem_cons_self
  · rw [hmembers]
    exact List.nodup_cons.mpr ⟨hkeyboard.not_mem_erase, hkeyboard.erase .line⟩

/-- The keyboard of a terminal ends once and for good, and the line is served nevertheless, whatever
fails in between. -/
theorem keyboard_ends_once {cfg : Config} {clock : Clock} {output : Output}
    {incoming typed : Script (List UInt8)} {line : LineOutput} {watchSet : WatchSet}
    {limit : PauseLimit} {waits : List Wait} {t₀ t : Terminal} {ws : List Event}
    (hset : watchSet.members.Nodup)
    (hcreate : create cfg clock output incoming typed line watchSet limit = .ok t₀)
    (hwatch : Ends watchBoth t₀ () t ws) (hwaits : ∀ r ∈ rounds t waits, r.Reliable) :
    EndsOnce t (rounds t waits) := by
  cases htransmitter : Transmitter.create cfg.mode cfg.delayUs limit with
  | error e =>
    rw [create, htransmitter] at hcreate
    cases hcreate
  | ok transmitter =>
    rw [create, htransmitter] at hcreate
    obtain rfl := Except.ok.inj hcreate
    obtain ⟨hwatching, hopen⟩ := watching_of_watchBoth hwatch hset rfl
    exact endsOnce_rounds hwatching hopen hwaits

/-- A keyboard whose read fails before it ends. Waits and writes to the screen fail as well, and the
line goes on. -/
theorem keyboard_ends_once_among_failures :
    ∃ t₀ t ws,
      ([] : List Handle).Nodup ∧
        create { delayUs := 0 } (.ofReadings []) ⟨[.ok (), .error (.raised .system "")], []⟩
          [.ok [65], .ok [66], .ok [67]] [.ok [120], .error (.raised .system ""), .ok []]
          ⟨[.ok (.count 1)], []⟩ (.ofRegistrations []) = .ok t₀ ∧
        Ends watchBoth t₀ () t ws ∧
        EndsOnce t (rounds t [.ok [.keyboard], .error (.raised .runtime ""), .ok [.keyboard],
          .ok [.line, .keyboard], .error (.raised .interruptedCall ""), .ok [.line], .ok [.line]])
      := by
  obtain ⟨t₀, t, ws, hcreate, hwatch, hwaits⟩ :
      ∃ t₀ t ws,
        create { delayUs := 0 } (.ofReadings []) ⟨[.ok (), .error (.raised .system "")], []⟩
          [.ok [65], .ok [66], .ok [67]] [.ok [120], .error (.raised .system ""), .ok []]
          ⟨[.ok (.count 1)], []⟩ (.ofRegistrations []) = .ok t₀ ∧
        Ends watchBoth t₀ () t ws ∧
        ∀ r ∈ rounds t [.ok [.keyboard], .error (.raised .runtime ""), .ok [.keyboard],
          .ok [.line, .keyboard], .error (.raised .interruptedCall ""), .ok [.line], .ok [.line]],
          r.Reliable :=
    ⟨_, _, _, rfl, rfl, by decide⟩
  exact ⟨t₀, t, ws, List.nodup_nil, hcreate, hwatch,
    keyboard_ends_once List.nodup_nil hcreate hwatch hwaits⟩

end Terminal

end SerialTerminal
