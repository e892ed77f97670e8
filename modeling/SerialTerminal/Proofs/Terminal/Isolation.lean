import SerialTerminal.Proofs.Terminal.Directions
import SerialTerminal.Proofs.Terminal.Failures

/-!
# Isolation of failures in a round

A round serves the keyboard and then the line, each at most once, whatever a wait reports besides
and in which order. A failure of the first half keeps the second one from happening; one of the
second half undoes nothing of the first one. The screen is asked to pass on what it holds only when
all of it was written (`poll_isolated`).
-/

namespace SerialTerminal

/-- Says that an output raised a failure, in a write or in a flush. -/
def Output.Raised (before after : Output) (cause : Failure) : Prop :=
  before.writes.failures = cause :: after.writes.failures ∨
    before.flushes.failures = cause :: after.flushes.failures

namespace Terminal

open Act

/-- The half of a round that serves the keyboard. -/
def keyboardHalf (ready : List Handle) : Act Terminal Unit :=
  if .keyboard ∈ ready then serveKeyboard else done ()

/-- The half of a round that serves the line. -/
def lineHalf (ready : List Handle) : Act Terminal Unit :=
  if .line ∈ ready then serveLine else done ()

/-- What comes of a round whose wait ends well, and of its half for the keyboard. -/
structure Served (t : Terminal) (ready : List Handle) (step typed : Step Terminal Unit) : Prop where
  /-- Nothing counts but whether the keyboard and the line are ready. -/
  insensitive : ∀ other : List Handle, (.keyboard ∈ other ↔ .keyboard ∈ ready) →
    (.line ∈ other ↔ .line ∈ ready) → (poll (.ok other)).run t = step
  /-- If the keyboard is ready, it is read first, and once. -/
  keyboard : ∃ es, typed.events =
      (if .keyboard ∈ ready then [.read .keyboard readLimit] else []) ++ es ∧
    ∀ e ∈ es, e.isTyping && !e.isRead
  /-- What was done for the keyboard comes first and is not undone. -/
  kept : typed.events <+: step.events ∧
    step.state = { typed.state with inbound := step.state.inbound }
  /-- If that went well and the line is ready, the line is read then, and once. -/
  line : typed.outcome = .ok () → .line ∈ ready →
    ∃ es, step.events = typed.events ++ .read .line readLimit :: es ∧ ∀ e ∈ es, e.isDisplay
  /-- If the line is not ready, that is all. -/
  unread : .line ∉ ready → step = typed ∧ step.state.inbound = t.inbound
  /-- A failure on the side of the keyboard keeps the line and the screen from being touched. -/
  isolated : ∀ cause, typed.outcome = .error cause → step = typed ∧ step.state.inbound = t.inbound
  /-- A screen that the operating system fails is fatal. -/
  refused : ∀ cause : Failure, cause.isSystem →
    Output.Raised t.inbound.viewer.output step.state.inbound.viewer.output cause →
    typed.outcome = .ok () ∧ step.outcome = .error (.fatal (.cannotShow cause.message))
  /-- Where the screen is asked to pass on what it holds, the whole batch has been shown. -/
  flushed : .shownFlushed ∈ step.events ∨
      step.state.inbound.viewer.output.flushes ≠ t.inbound.viewer.output.flushes →
    ∃ chunk v es, ((Inbound.read readLimit).run t.inbound).outcome = .ok chunk ∧
      Ends (Viewer.feed chunk) t.inbound.viewer () v es ∧
      v.output.writes.failures = t.inbound.viewer.output.writes.failures ∧ .shownFlushed ∉ es ∧
      step.events =
        typed.events ++ .read .line readLimit :: (es ++ (Viewer.flush.run v).events)

/-- What comes of a round whose wait fails. Nothing is read, written or changed. -/
structure Unserved (t : Terminal) (cause : Failure) (step : Step Terminal Unit) : Prop where
  unchanged : step.state = t
  events : ∀ e ∈ step.events, ∃ severity text, e = .record severity text
  interrupted : cause.isInterruptedCall → step.outcome = .ok ()
  system : ¬ cause.isInterruptedCall → cause.isSystem →
    step.outcome = .error (.fatal (.cannotWait cause.message))

section Halves

variable {t : Terminal} {ready : List Handle}

private theorem run_poll (t : Terminal) (ready : List Handle) :
    (poll (.ok ready)).run t =
      (keyboardHalf ready >>= fun _ => lineHalf ready).run t :=
  congrArg (fun x => x.run t) (serve_eq ready)

/-- What comes of a line that is ready: a read that fails, a batch of which not all is shown, or one
that is shown and passed on. -/
private inductive Received (t : Terminal) : Step Terminal Unit → Prop where
  | unread {cause : Failure} {incoming : Script (List UInt8)} :
      Received t
        ⟨.error cause, { t with inbound := ⟨t.inbound.viewer, incoming⟩ },
          [.read .line readLimit]⟩
  | unshown {cause : Failure} {incoming : Script (List UInt8)} {chunk : List UInt8} {v : Viewer}
      {es : List Event} (hfeed : (Viewer.feed chunk).run t.inbound.viewer = ⟨.error cause, v, es⟩) :
      Received t ⟨.error (cause.fatalIfSystem .cannotShow), { t with inbound := ⟨v, incoming⟩ },
        .read .line readLimit :: es⟩
  | shown {incoming : Script (List UInt8)} {chunk : List UInt8} {v : Viewer} {es : List Event}
      (hread : ((Inbound.read readLimit).run t.inbound).outcome = .ok chunk)
      (hfeed : Ends (Viewer.feed chunk) t.inbound.viewer () v es) :
      Received t ⟨(Viewer.flush.run v).outcome.mapError (Failure.fatalIfSystem .cannotShow),
        { t with inbound := ⟨(Viewer.flush.run v).state, incoming⟩ },
        .read .line readLimit :: (es ++ (Viewer.flush.run v).events)⟩

private theorem run_render (t : Terminal) (chunk : List UInt8) {r : Except Failure Unit}
    {v : Viewer} {es : List Event}
    (h : (Viewer.feed chunk >>= fun _ => Viewer.flush).run t.inbound.viewer = ⟨r, v, es⟩) :
    (onInbound (Inbound.render chunk)).run t =
      ⟨r.mapError (Failure.fatalIfSystem .cannotShow),
        { t with inbound := ⟨v, t.inbound.incoming⟩ }, es⟩ := by
  rw [run] at h
  rw [run, onInbound, Act.on, Inbound.render, Act.mapFailure, Act.on, h]

private theorem received_serveLine (t : Terminal) : Received t (serveLine.run t) := by
  have hread := run_readLine t
  rcases houtcome : ((Inbound.read readLimit).run t.inbound).outcome with cause | chunk
  · rw [houtcome] at hread
    rw [serveLine, run_bind_of_error _ hread]
    exact .unread
  · rw [houtcome] at hread
    rw [serveLine, run_bind_of_ok _ hread]
    generalize ((Inbound.read readLimit).run t.inbound).state.incoming = rest
    rcases hfeed : (Viewer.feed chunk).run t.inbound.viewer with ⟨cause | _, v, es⟩
    · rw [run_render ⟨⟨_, rest⟩, _, _, _⟩ chunk (run_bind_of_error _ hfeed)]
      exact .unshown hfeed
    · rw [run_render ⟨⟨_, rest⟩, _, _, _⟩ chunk (run_bind_of_ok _ hfeed)]
      exact .shown houtcome hfeed

private theorem emits_keyboardHalf (ready : List Handle) :
    Emits Event.isTyping (keyboardHalf ready) := by
  rw [keyboardHalf]
  split
  · exact emits_serveKeyboard
  · exact emits_of_silent fun _ => rfl

private theorem inbound_keyboardHalf (ready : List Handle) (t : Terminal) :
    ((keyboardHalf ready).run t).state.inbound = t.inbound := by
  rw [keyboardHalf]
  split
  · exact keeps_serveKeyboard t.inbound t rfl
  · rfl

/-- The keyboard is read before anything else is done for it. -/
private theorem events_keyboardHalf (t : Terminal) (ready : List Handle) :
    ∃ es, ((keyboardHalf ready).run t).events =
        (if .keyboard ∈ ready then [.read .keyboard readLimit] else []) ++ es ∧
      ∀ e ∈ es, e.isTyping && !e.isRead := by
  by_cases h : .keyboard ∈ ready
  · obtain ⟨es, hes, hkind⟩ :=
      exists_events_bind (onOutbound (Outbound.read readLimit)) emits_typed t
    rw [run_readKeyboard] at hes
    rw [keyboardHalf, if_pos h, if_pos h]
    exact ⟨es, hes, hkind⟩
  · rw [keyboardHalf, if_neg h, if_neg h]
    exact ⟨[], rfl, fun _ he => absurd he List.not_mem_nil⟩

/-- How a round goes on after its half for the keyboard: not at all, or with the line. -/
private inductive Continued (ready : List Handle) (typed : Step Terminal Unit) :
    Step Terminal Unit → Prop where
  | alone (h : typed.outcome = .ok () → .line ∉ ready) : Continued ready typed typed
  | received (h : typed.outcome = .ok ()) (hready : .line ∈ ready) {r : Step Terminal Unit}
      (hr : Received typed.state r) :
      Continued ready typed ⟨r.outcome, r.state, typed.events ++ r.events⟩

private theorem continued_poll (t : Terminal) (ready : List Handle) :
    Continued ready ((keyboardHalf ready).run t) ((poll (.ok ready)).run t) := by
  rw [run_poll]
  rcases h : (keyboardHalf ready).run t with ⟨cause | _, t', es⟩
  · rw [run_bind_of_error _ h]
    exact .alone nofun
  · rw [run_bind_of_ok _ h]
    by_cases hready : .line ∈ ready
    · rw [lineHalf, if_pos hready]
      exact .received rfl hready (received_serveLine t')
    · rw [lineHalf, if_neg hready]
      change Continued ready _ ⟨.ok (), t', es ++ []⟩
      rw [List.append_nil]
      exact .alone fun _ => hready

private theorem run_poll_congr {other : List Handle}
    (hkeyboard : .keyboard ∈ other ↔ .keyboard ∈ ready) (hline : .line ∈ other ↔ .line ∈ ready) :
    (poll (.ok other)).run t = (poll (.ok ready)).run t := by
  rw [run_poll, run_poll]
  simp only [keyboardHalf, lineHalf, hkeyboard, hline]

/-- What comes of the line changes the inbound direction alone. -/
private theorem Received.state_eq {r : Step Terminal Unit} (h : Received t r) :
    r.state = { t with inbound := r.state.inbound } := by
  cases h <;> rfl

/-- The line is read, and what follows is up to the viewer. -/
private theorem Received.events_eq {r : Step Terminal Unit} (h : Received t r) :
    ∃ es, r.events = .read .line readLimit :: es ∧ ∀ e ∈ es, e.isDisplay := by
  cases h with
  | unread => exact ⟨[], rfl, fun _ he => absurd he List.not_mem_nil⟩
  | @unshown _ _ chunk _ es hfeed =>
    have hemits := Viewer.emits_of_madeOf ((Viewer.madeOf_feed chunk).mono fun _ _ h => h.isCall)
    have hes := hemits t.inbound.viewer
    rw [hfeed] at hes
    exact ⟨es, rfl, hes⟩
  | @shown _ chunk v es _ hfeed =>
    have hemits := Viewer.emits_of_madeOf ((Viewer.madeOf_feed chunk).mono fun _ _ h => h.isCall)
    have hflush := Viewer.emits_of_madeOf (.call .flush)
    exact ⟨_, rfl, fun e he => (List.mem_append.mp he).elim (hemits.all hfeed e) (hflush v e)⟩

/-- The screen is asked to pass on what it holds only when all of a batch is on it. -/
private theorem Received.of_flushed {r : Step Terminal Unit} (h : Received t r)
    (hflushed : .shownFlushed ∈ r.events ∨
      r.state.inbound.viewer.output.flushes ≠ t.inbound.viewer.output.flushes) :
    ∃ chunk v es, ((Inbound.read readLimit).run t.inbound).outcome = .ok chunk ∧
      Ends (Viewer.feed chunk) t.inbound.viewer () v es ∧
      v.output.writes.failures = t.inbound.viewer.output.writes.failures ∧ .shownFlushed ∉ es ∧
      r.events = .read .line readLimit :: (es ++ (Viewer.flush.run v).events) := by
  cases h with
  | unread => exact absurd hflushed (by simp)
  | @unshown _ _ chunk v es hfeed =>
    have hun := Viewer.unflushed_of_madeOf (Viewer.madeOf_feed chunk) t.inbound.viewer
    rw [hfeed] at hun
    rcases hflushed with hmem | hne
    · exact absurd ((List.mem_cons.mp hmem).resolve_left nofun) hun.2
    · exact absurd hun.1 hne
  | @shown _ chunk v es hread hfeed =>
    have hun := Viewer.unflushed_of_madeOf (Viewer.madeOf_feed chunk) t.inbound.viewer
    have hcharges := charges_of_madeOf ((Viewer.madeOf_feed chunk).mono fun _ _ h => h.isCall)
    rw [hfeed] at hun
    exact ⟨chunk, v, es, hread, hfeed, congrFun (hcharges.ok hfeed) .screenWrite, hun.2, rfl⟩

/-- A failure that the screen raised is what the round fails with. -/
private theorem outcome_of_raised {cause : Failure} (hcause : cause.isSystem)
    (h : Output.Raised t.inbound.viewer.output
      ((poll (.ok ready)).run t).state.inbound.viewer.output cause) :
    ((poll (.ok ready)).run t).outcome = .error (.fatal (.cannotShow cause.message)) := by
  have hserve := charges_serve [] ready
  obtain ⟨site, hsite, hcons⟩ : ∃ site : Site, (site = .screenWrite ∨ site = .screenFlush) ∧
      t.failures [] site = cause :: ((poll (.ok ready)).run t).state.failures [] site :=
    h.elim (fun hwrite => ⟨_, .inl rfl, hwrite⟩) fun hflush => ⟨_, .inr rfl, hflush⟩
  rcases hrun : (poll (.ok ready)).run t with ⟨e | _, t', es⟩
  · rw [hrun] at hcons
    obtain ⟨_, raw, hblamed, hspent⟩ := hserve.error hrun
    obtain ⟨rfl, hraw⟩ := hspent.eq_of_cons hcons
    rw [hraw] at hblamed
    have he : e = cause.fatalIfSystem .cannotShow := by
      rcases hsite with rfl | rfl <;> cases hblamed <;> rfl
    rw [he, Failure.fatalIfSystem, if_pos hcause]
  · rw [hrun] at hcons
    have hnone := congrFun (hserve.ok hrun) site
    exact absurd (hcons.symm.trans hnone.symm) (List.cons_ne_self _ _)

/-- Nothing is raised where nothing happens. -/
private theorem not_raised_self (o : Output) (cause : Failure) : ¬ o.Raised o cause := by
  rintro (h | h) <;> exact List.cons_ne_self _ _ h.symm

private theorem served (t : Terminal) (ready : List Handle) :
    Served t ready ((poll (.ok ready)).run t) ((keyboardHalf ready).run t) := by
  have hinbound := inbound_keyboardHalf ready t
  have htyping := emits_keyboardHalf ready t
  have hcontinued := continued_poll t ready
  have hraised := @outcome_of_raised t ready
  have hcongr := fun other => @run_poll_congr t ready other
  have hkeyboard := events_keyboardHalf t ready
  generalize (poll (.ok ready)).run t = step at *
  generalize (keyboardHalf ready).run t = typed at *
  -- What the keyboard leads to is no sign of the screen.
  have hunflushed : .shownFlushed ∉ typed.events := fun h => absurd (htyping _ h) (by decide)
  cases hcontinued with
  | alone h =>
    exact {
      insensitive := hcongr
      keyboard := hkeyboard
      kept := ⟨List.prefix_refl _, rfl⟩
      line := fun hok hline => absurd hline (h hok)
      unread := fun _ => ⟨rfl, hinbound⟩
      isolated := fun _ _ => ⟨rfl, hinbound⟩
      refused := fun cause _ hr => absurd (hinbound ▸ hr) (not_raised_self _ cause)
      flushed := fun hf => absurd (hf.resolve_left hunflushed) (· (by rw [hinbound])) }
  | @received h hready r hr =>
    obtain ⟨es, hes, hdisplay⟩ := hr.events_eq
    refine {
      insensitive := hcongr
      keyboard := hkeyboard
      kept := ⟨List.prefix_append _ _, hr.state_eq⟩
      line := fun _ _ => ⟨es, by rw [hes], hdisplay⟩
      unread := fun hline => absurd hready hline
      isolated := fun _ herror => absurd (h.symm.trans herror) nofun
      refused := fun cause hcause hr => ⟨h, hraised hcause hr⟩
      flushed := fun hf => ?_ }
    -- It is the line that led to it, not the keyboard.
    have hline : .shownFlushed ∈ r.events ∨
        r.state.inbound.viewer.output.flushes ≠ typed.state.inbound.viewer.output.flushes :=
      hf.imp (fun hmem => (List.mem_append.mp hmem).resolve_left hunflushed)
        fun hne => hinbound ▸ hne
    obtain ⟨chunk, v, es, hread, hfeed, hwrites, hnone, hevents⟩ := hr.of_flushed hline
    rw [hinbound] at hread hfeed hwrites
    exact ⟨chunk, v, es, hread, hfeed, hwrites, hnone, congrArg (typed.events ++ ·) hevents⟩

end Halves

/-- A wait that fails leads to nothing but records: none if a signal cut it short. -/
private theorem unserved (t : Terminal) (cause : Failure) :
    Unserved t cause ((poll (.error cause)).run t) := by
  rw [poll]
  by_cases h : cause.isInterruptedCall
  · rw [if_pos h]
    exact {
      unchanged := rfl
      events := fun e he => ⟨_, _, List.mem_singleton.mp he⟩
      interrupted := fun _ => rfl
      system := fun hnot => absurd h hnot }
  · rw [if_neg h]
    refine {
      unchanged := rfl
      events := fun e he => absurd he List.not_mem_nil
      interrupted := fun hi => absurd hi h
      system := fun _ hsystem => ?_ }
    change Except.error (cause.fatalIfSystem .cannotWait) = _
    rw [Failure.fatalIfSystem, if_pos hsystem]

/-- A round does at most what it is to do for the keyboard and then for the line, whatever else is
ready. What fails in it undoes nothing and lets nothing follow, and a wait that fails changes
nothing at all. -/
theorem poll_isolated (t : Terminal) :
    (∀ ready, Served t ready ((poll (.ok ready)).run t) ((keyboardHalf ready).run t)) ∧
      ∀ cause, Unserved t cause ((poll (.error cause)).run t) :=
  ⟨served t, unserved t⟩

end Terminal

end SerialTerminal
