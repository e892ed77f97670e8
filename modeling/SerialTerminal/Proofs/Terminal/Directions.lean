import SerialTerminal.Proofs.Chunks
import SerialTerminal.Proofs.Terminal.Events

/-!
# Directions

The two directions of a terminal do not interfere. As long as nothing fails, what is shown depends
only on the clock, on what the line holds and on how often the line was ready, and it is what a
viewer by itself shows of the chunks that were read. What is sent depends only on what is typed and
on how often the keyboard was ready, and it is what a transmitter by itself makes of the chunks
(`directions_apart`).
-/

namespace SerialTerminal

/-- Holds of the events of the direction from the keyboard to the line. -/
def Event.isOutbound (e : Event) : Bool := !e.isInbound

namespace Viewer

/-- Shows a chunk that is read from the line. -/
def showChunk (chunk : List UInt8) : Act Viewer Unit := do
  Act.emit (.read .line Terminal.readLimit)
  feed chunk
  flush

/-- Shows chunks that are read from the line. -/
def showChunks (chunks : List (List UInt8)) : Act Viewer Unit := Act.forEach showChunk chunks

private theorem ignores_showChunk (chunk : List UInt8) :
    Act.Ignores unrefused (showChunk chunk) :=
  (Act.ignores_emit _).bind fun _ => ignores_of_madeOf (madeOf_feed_flush chunk)

private theorem emits_showChunk (chunk : List UInt8) :
    Act.Emits Event.isInbound (showChunk chunk) := by
  refine (Act.emits_emit rfl).bind fun _ => ?_
  exact (emits_of_madeOf (madeOf_feed_flush chunk)).mono Event.isInbound_of_isDisplay

section Flush

variable {v v' : Viewer} {es : List Event}

/-- An output that refuses no flush is asked once to pass on what it holds, and nothing else
happens. -/
theorem ends_flush (h : ∀ reply ∈ v.output.flushes, reply = .ok ()) :
    Act.Ends flush v () { v with output.flushes := v.output.flushes.tail } [.shownFlushed] := by
  have hnext : Act.Ends (Script.next ()) v.output.flushes () v.output.flushes.tail [] := by
    cases hf : v.output.flushes with
    | nil => rfl
    | cons reply rest =>
      obtain rfl := h reply (hf ▸ List.mem_cons_self)
      rfl
  exact (hnext.on.bind (Act.ends_emit _ _)).on

/-- Where a flush ends well, whatever the output, it was that one event. -/
theorem causes_flush : Act.Causes flush [.shownFlushed] :=
  (((Act.causes_next _).on _ _).bind fun _ => Act.causes_emit _).on _ _

/-- A chunk that is shown is flushed at its end, and not before. -/
theorem of_showChunk {chunk : List UInt8} (h : Act.Ends (showChunk chunk) v () v' es) :
    ∃ fs, es = .read .line Terminal.readLimit :: (fs ++ [.shownFlushed]) ∧ .shownFlushed ∉ fs := by
  obtain ⟨_, _, _, _, hread, hshow, rfl⟩ := h.of_bind
  cases hread
  obtain ⟨_, _, fs, gs, hfeed, hflush, rfl⟩ := hshow.of_bind
  obtain rfl := causes_flush _ _ _ _ hflush
  have hfed := (unflushed_of_madeOf (madeOf_feed chunk) v).2
  rw [congrArg Step.events hfeed] at hfed
  exact ⟨fs, rfl, hfed⟩

/-- Chunks that are shown are flushed once each. -/
theorem count_shownFlushed_of_showChunks {chunks : List (List UInt8)}
    (h : Act.Ends (showChunks chunks) v () v' es) : es.count .shownFlushed = chunks.length := by
  induction chunks generalizing v es with
  | nil =>
    cases h
    rfl
  | cons chunk rest ih =>
    obtain ⟨_, _, _, _, hchunk, hrest, rfl⟩ := h.of_bind
    obtain ⟨fs, rfl, hfs⟩ := of_showChunk hchunk
    rw [List.count_append, ih hrest, List.length_cons, List.count_cons_of_ne (by decide),
      List.count_append, List.count_eq_zero_of_not_mem hfs, List.count_singleton_self]
    omega

end Flush

end Viewer

/-- The record of the end of the keyboard, and before it the request not to watch it any more. -/
def Outbound.endTrace (watched : Bool) : List Event :=
  (if watched then [.unwatched .keyboard] else [])
    ++ [.record .info "console input closed, relaying serial output only"]

/-- The events of chunks that are read from the keyboard. The keyboard is watched up to the first
empty one. -/
def Transmitter.typedTrace (t : Transmitter) : Bool → List (List UInt8) → List Event
  | _, [] => []
  | watched, chunk :: rest =>
    .read .keyboard Terminal.readLimit ::
      ((if chunk.isEmpty then Outbound.endTrace watched else t.trace chunk)
        ++ t.typedTrace (watched && !chunk.isEmpty) rest)

namespace Terminal

open Act

/-- The handles that are watched while a terminal runs. -/
def watchedHandles (keyboard : Bool) : List Handle :=
  if keyboard then [.line, .keyboard] else [.line]

section Halves

variable {t t' : Terminal} {es : List Event}

/-- To serve the line is to read a chunk and to show it. -/
theorem of_serveLine (h : Ends serveLine t () t' es) :
    ∃ chunk, Ends (Script.nextChunk readLimit) t.inbound.incoming chunk t'.inbound.incoming [] ∧
      Ends (Viewer.showChunk chunk) t.inbound.viewer () t'.inbound.viewer es ∧
        t' = { t with inbound := t'.inbound } := by
  obtain ⟨chunk, t₁, es₁, es₂, hread, hrender, rfl⟩ := h.of_bind
  obtain ⟨i₁, hpart, rfl⟩ := hread.of_on
  obtain ⟨rest, hsource, rfl⟩ := hpart.of_on
  obtain ⟨_, _, fs, gs, hemit, hchunk, rfl⟩ := hsource.of_bind
  obtain ⟨i₂, hinbound, rfl⟩ := hrender.of_on
  obtain ⟨v, hfeed, rfl⟩ := (ends_mapFailure.mp hinbound).of_on
  cases hemit
  obtain rfl : gs = [] := Script.causes_nextChunk _ _ _ _ _ hchunk
  exact ⟨chunk, hchunk, (ends_emit _ _).bind hfeed, rfl⟩

private theorem emits_outbound : Emits Event.isOutbound serveKeyboard := by
  refine emits_serveKeyboard.mono fun e he => ?_
  cases e with
  | read source => cases source <;> first | rfl | cases he
  | record severity => cases severity <;> first | rfl | cases he
  | written | flushed | slept | unwatched => rfl
  | _ => cases he

/-- What a ready keyboard leads to leaves the inbound direction alone. -/
theorem keeps_serveKeyboard (i : Inbound) :
    Keeps (fun t : Terminal => t.inbound = i) serveKeyboard := by
  refine Keeps.bind (keeps_on _ fun _ _ h => h) fun chunk => ?_
  split
  · refine Keeps.bind (keeps_on _ fun _ _ h => h) fun _ => ?_
    refine Keeps.bind (keeps_modify fun _ h => h) fun _ => ?_
    exact keeps_emit _ _
  · exact keeps_on _ fun _ _ h => h

private theorem ends_unwatch {w : WatchSet} {watched : Bool}
    (hw : w.members = watchedHandles watched) :
    Ends (WatchSet.unwatch .keyboard) w () { w with members := watchedHandles false }
      (if watched then [.unwatched .keyboard] else []) := by
  rcases w with ⟨registrations, members⟩
  obtain rfl : members = watchedHandles watched := hw
  cases watched <;> rfl

private theorem ends_endKeyboard {watched : Bool}
    (hw : t.watchSet.members = watchedHandles watched) :
    Ends endKeyboard t ()
      { t with
        keyboardOpen := false
        watchSet := { t.watchSet with members := watchedHandles false } }
      (Outbound.endTrace watched) :=
  (ends_unwatch hw).on.bind ((ends_modify _ _).bind (ends_emit _ _))

/-- To serve the keyboard is to read a chunk and to send it, unless it is empty. -/
theorem of_serveKeyboard {watched : Bool} (h : Ends serveKeyboard t () t' es)
    (hw : t.watchSet.members = watchedHandles watched) :
    ∃ chunk, Ends (Script.nextChunk readLimit) t.outbound.typed chunk t'.outbound.typed [] ∧
      es = .read .keyboard readLimit :: (if chunk.isEmpty then Outbound.endTrace watched
        else t.outbound.transmitter.trace chunk) ∧
      t'.watchSet.members = watchedHandles (watched && !chunk.isEmpty) ∧
        t'.outbound.transmitter = t.outbound.transmitter := by
  obtain ⟨chunk, t₁, es₁, es₂, hread, hrest, rfl⟩ := h.of_bind
  obtain ⟨o₁, hpart, rfl⟩ := hread.of_on
  obtain ⟨rest, hsource, rfl⟩ := hpart.of_on
  obtain ⟨_, _, fs, gs, hemit, hchunk, rfl⟩ := hsource.of_bind
  cases hemit
  obtain rfl : gs = [] := Script.causes_nextChunk _ _ _ _ _ hchunk
  by_cases hempty : chunk.isEmpty
  · simp only [hempty, ↓reduceIte] at hrest ⊢
    obtain ⟨_, rfl, rfl⟩ := hrest.unique (ends_endKeyboard hw)
    refine ⟨chunk, hchunk, ?_, ?_, rfl⟩
    · simp [hempty]
    · simp [hempty]
  · simp only [hempty, Bool.false_eq_true, ↓reduceIte] at hrest ⊢
    obtain ⟨o₂, hsend, rfl⟩ := hrest.of_on
    obtain ⟨_, _, _, gs, hget, hline, rfl⟩ := hsend.of_bind
    cases hget
    obtain ⟨l, hl, rfl⟩ := hline.of_on
    refine ⟨chunk, hchunk, ?_, ?_, rfl⟩
    · rw [Transmitter.causes_send _ _ _ _ _ _ hl]
      simp [hempty]
    · simp [hempty, hw]

private theorem inbound_of_serve {ready : List Handle} (h : Ends (serve ready) t () t' es) :
    if .line ∈ ready then
      ∃ chunk, Ends (Script.nextChunk readLimit) t.inbound.incoming chunk t'.inbound.incoming [] ∧
        Ends (Viewer.showChunk chunk) t.inbound.viewer () t'.inbound.viewer
          (es.filter Event.isInbound)
    else t'.inbound = t.inbound ∧ es.filter Event.isInbound = [] := by
  rw [serve_eq] at h
  obtain ⟨_, t₁, fs, gs, hkeyboard, hline, rfl⟩ := h.of_bind
  have hfirst : t₁.inbound = t.inbound ∧ fs.filter Event.isInbound = [] := by
    split at hkeyboard
    · have hk := keeps_serveKeyboard t.inbound t rfl
      rw [hkeyboard] at hk
      refine ⟨hk, List.filter_eq_nil_iff.mpr fun e he => ?_⟩
      simpa [Event.isOutbound] using emits_outbound.all hkeyboard e he
    · cases hkeyboard
      exact ⟨rfl, rfl⟩
  rw [List.filter_append, hfirst.2, List.nil_append]
  split at hline
  · next hready =>
    rw [if_pos hready]
    obtain ⟨chunk, hchunk, hshow, _⟩ := of_serveLine hline
    rw [hfirst.1] at hchunk hshow
    refine ⟨chunk, hchunk, ?_⟩
    rwa [List.filter_eq_self.mpr ((Viewer.emits_showChunk chunk).all hshow)]
  · next hready =>
    rw [if_neg hready]
    cases hline
    exact ⟨hfirst.1, rfl⟩

private theorem outbound_of_serve {ready : List Handle} {watched : Bool}
    (h : Ends (serve ready) t () t' es) (hw : t.watchSet.members = watchedHandles watched) :
    if .keyboard ∈ ready then
      ∃ chunk, Ends (Script.nextChunk readLimit) t.outbound.typed chunk t'.outbound.typed [] ∧
        es.filter Event.isOutbound = .read .keyboard readLimit ::
          (if chunk.isEmpty then Outbound.endTrace watched
            else t.outbound.transmitter.trace chunk) ∧
        t'.watchSet.members = watchedHandles (watched && !chunk.isEmpty) ∧
          t'.outbound.transmitter = t.outbound.transmitter
    else
      t'.outbound = t.outbound ∧ t'.watchSet = t.watchSet ∧ es.filter Event.isOutbound = [] := by
  rw [serve_eq] at h
  obtain ⟨_, t₁, fs, gs, hkeyboard, hline, rfl⟩ := h.of_bind
  have hsecond : t'.outbound = t₁.outbound ∧ t'.watchSet = t₁.watchSet ∧
      gs.filter Event.isOutbound = [] := by
    split at hline
    · obtain ⟨chunk, _, hshow, ht⟩ := of_serveLine hline
      rw [ht]
      refine ⟨rfl, rfl, List.filter_eq_nil_iff.mpr fun e he => ?_⟩
      simp [Event.isOutbound, (Viewer.emits_showChunk chunk).all hshow e he]
    · cases hline
      exact ⟨rfl, rfl, rfl⟩
  rw [List.filter_append, hsecond.1, hsecond.2.1, hsecond.2.2, List.append_nil]
  split at hkeyboard
  · next hready =>
    rw [if_pos hready]
    have hfs := emits_outbound.all hkeyboard
    obtain ⟨chunk, hchunk, rfl, hmembers, htransmitter⟩ := of_serveKeyboard hkeyboard hw
    refine ⟨chunk, hchunk, ?_, hmembers, htransmitter⟩
    rw [List.filter_eq_self.mpr hfs]
  · next hready =>
    rw [if_neg hready]
    cases hkeyboard
    exact ⟨rfl, rfl, rfl⟩

end Halves

/-- Rounds whose waits end well, each with the handles that are ready. -/
def polls (readies : List (List Handle)) : Act Terminal Unit :=
  forEach (fun ready => poll (.ok ready)) readies

section Polls

variable {t t' : Terminal} {readies : List (List Handle)} {es : List Event}

/-- What rounds show is what a viewer shows of the chunks that the line gives. -/
theorem inbound_of_polls (h : Ends (polls readies) t () t' es) :
    let received :=
      Script.chunks readLimit (readies.countP fun ready => .line ∈ ready) t.inbound.incoming
    Ends (Viewer.showChunks received) t.inbound.viewer () t'.inbound.viewer
        (es.filter Event.isInbound) ∧
      t.inbound.incoming.supply = received.flatten ++ t'.inbound.incoming.supply := by
  induction readies generalizing t es with
  | nil =>
    cases h
    exact ⟨ends_done () _, rfl⟩
  | cons ready rest ih =>
    obtain ⟨_, t₁, fs, gs, hpoll, hrest, rfl⟩ := h.of_bind
    obtain ⟨hshown, hsupply⟩ := ih hrest
    have hstep := inbound_of_serve hpoll
    by_cases hready : .line ∈ ready
    · rw [if_pos hready] at hstep
      obtain ⟨chunk, hchunk, hshow⟩ := hstep
      simp only [List.countP_cons, hready, decide_true, ↓reduceIte,
        Script.chunks_of_ends hchunk, List.filter_append, List.flatten_cons, List.append_assoc,
        ← hsupply]
      exact ⟨hshow.bind hshown, Script.supply_of_ends hchunk⟩
    · rw [if_neg hready] at hstep
      simp only [List.countP_cons, hready, decide_false, Bool.false_eq_true, ↓reduceIte,
        Nat.add_zero, List.filter_append, hstep.2, List.nil_append, ← hstep.1]
      exact ⟨hshown, hsupply⟩

/-- What rounds do for the keyboard follows from the chunks that it gives. -/
theorem outbound_of_polls {watched : Bool} (h : Ends (polls readies) t () t' es)
    (hw : t.watchSet.members = watchedHandles watched) :
    let typed :=
      Script.chunks readLimit (readies.countP fun ready => .keyboard ∈ ready) t.outbound.typed
    es.filter Event.isOutbound = t.outbound.transmitter.typedTrace watched typed ∧
      t.outbound.typed.supply = typed.flatten ++ t'.outbound.typed.supply := by
  induction readies generalizing t es watched with
  | nil =>
    cases h
    exact ⟨rfl, rfl⟩
  | cons ready rest ih =>
    obtain ⟨_, t₁, fs, gs, hpoll, hrest, rfl⟩ := h.of_bind
    have hstep := outbound_of_serve hpoll hw
    by_cases hready : .keyboard ∈ ready
    · rw [if_pos hready] at hstep
      obtain ⟨chunk, hchunk, hfs, hmembers, htransmitter⟩ := hstep
      obtain ⟨hsent, hsupply⟩ := ih hrest hmembers
      simp only [List.countP_cons, hready, decide_true, ↓reduceIte,
        Script.chunks_of_ends hchunk, List.filter_append, List.flatten_cons, List.append_assoc,
        ← hsupply, Transmitter.typedTrace, hfs, hsent, htransmitter, List.cons_append]
      exact ⟨trivial, Script.supply_of_ends hchunk⟩
    · rw [if_neg hready] at hstep
      obtain ⟨houtbound, hset, hfs⟩ := hstep
      obtain ⟨hsent, hsupply⟩ := ih hrest (hset ▸ hw)
      simp only [List.countP_cons, hready, decide_false, Bool.false_eq_true, ↓reduceIte,
        Nat.add_zero, List.filter_append, hfs, List.nil_append, ← houtbound]
      exact ⟨hsent, hsupply⟩

end Polls

private theorem sentBytes_of_isInbound {e : Event} (h : e.isInbound) : e.sentBytes = [] := by
  cases e with
  | written bytes => cases h
  | _ => rfl

private theorem sentBytes_filter (es : List Event) :
    (es.filter Event.isOutbound).flatMap Event.sentBytes = es.flatMap Event.sentBytes := by
  induction es with
  | nil => rfl
  | cons e rest ih =>
    by_cases he : e.isInbound
    · simp [Event.isOutbound, he, ← ih, sentBytes_of_isInbound he]
    · simp [Event.isOutbound, he, ← ih]

private theorem sentBytes_typedTrace (transmitter : Transmitter) (watched : Bool)
    (chunks : List (List UInt8)) :
    (transmitter.typedTrace watched chunks).flatMap Event.sentBytes =
      (chunks.filter (!·.isEmpty)).flatMap transmitter.wireBytes := by
  induction chunks generalizing watched with
  | nil => rfl
  | cons chunk rest ih =>
    rw [Transmitter.typedTrace, List.flatMap_cons, List.flatMap_append, ih]
    by_cases hempty : chunk.isEmpty
    · cases watched <;> simp [hempty, Outbound.endTrace, Event.sentBytes]
    · simp [hempty, Event.sentBytes, transmitter.sentBytes_trace]

private theorem of_watch {handle : Handle} {w w' : WatchSet} {es : List Event}
    (h : Ends (WatchSet.watch handle) w () w' es) :
    w'.members = handle :: w.members.erase handle := by
  obtain ⟨_, w₁, _, _, hrequest, hrest, _⟩ := h.of_bind
  obtain ⟨_, w₂, _, _, hemit, hmodify, _⟩ := hrest.of_bind
  obtain ⟨registrations, _, rfl⟩ := (ends_mapFailure.mp hrequest).of_on
  cases hemit
  cases hmodify
  rfl

/-- To watch both handles changes nothing but the watch set, to which it adds them. -/
theorem of_watchBoth {t t' : Terminal} {es : List Event} (h : Ends watchBoth t () t' es) :
    t'.watchSet.members = .line :: (.keyboard :: t.watchSet.members.erase .keyboard).erase .line ∧
      t' = { t with watchSet := t'.watchSet } := by
  obtain ⟨_, t₁, _, _, hkeyboard, hline, _⟩ := h.of_bind
  obtain ⟨w₁, hfirst, rfl⟩ := hkeyboard.of_on
  obtain ⟨w₂, hsecond, rfl⟩ := hline.of_on
  have h₁ := of_watch hfirst
  have h₂ := of_watch hsecond
  rw [h₁] at h₂
  exact ⟨h₂, rfl⟩

/-- What comes of rounds in each direction by itself. -/
structure Apart (cfg : Config) (clock : Clock) (limit : PauseLimit)
    (incoming typed : Script (List UInt8)) (readies : List (List Handle)) (t : Terminal)
    (es : List Event) : Prop where
  /-- The events of the inbound direction are those of a viewer that shows chunk after chunk, each
  flushed once, on an output that refuses nothing. The viewer is left in the same state. -/
  shown : Ends
    (Viewer.showChunks
      (Script.chunks readLimit (readies.countP fun ready => .line ∈ ready) incoming))
    (.start cfg.mode cfg.timeFormat cfg.startTime clock .willing) () t.inbound.viewer.unrefused
    (es.filter Event.isInbound)
  /-- The chunks are the front of what the line holds. -/
  received : incoming.supply =
    (Script.chunks readLimit (readies.countP fun ready => .line ∈ ready) incoming).flatten
      ++ t.inbound.incoming.supply
  /-- The other events are those of a transmitter that sends chunk after chunk, but for those that
  are empty. They send the bytes of the chunks and nothing else. -/
  sent : ∃ transmitter, Transmitter.create cfg.mode cfg.delayUs limit = .ok transmitter ∧
    es.filter Event.isOutbound = transmitter.typedTrace true
      (Script.chunks readLimit (readies.countP fun ready => .keyboard ∈ ready) typed) ∧
    es.flatMap Event.sentBytes =
      ((Script.chunks readLimit (readies.countP fun ready => .keyboard ∈ ready) typed).filter
        (!·.isEmpty)).flatMap transmitter.wireBytes
  /-- The chunks are the front of what is typed. -/
  typed : typed.supply =
    (Script.chunks readLimit (readies.countP fun ready => .keyboard ∈ ready) typed).flatten
      ++ t.outbound.typed.supply

/-- The output is flushed once for each chunk of the line, whatever else happens in between. -/
theorem Apart.count_shownFlushed {cfg : Config} {clock : Clock} {limit : PauseLimit}
    {incoming typed : Script (List UInt8)} {readies : List (List Handle)} {t : Terminal}
    {es : List Event} (h : Apart cfg clock limit incoming typed readies t es) :
    es.count .shownFlushed =
      (Script.chunks readLimit (readies.countP fun ready => .line ∈ ready) incoming).length := by
  rw [← Viewer.count_shownFlushed_of_showChunks h.shown,
    List.count_filter (p := Event.isInbound) rfl]

/-- The directions of a terminal that was just made do not interfere, as long as nothing fails. -/
theorem directions_apart {cfg : Config} {clock : Clock} {output : Output}
    {incoming typed : Script (List UInt8)} {line : LineOutput} {registrations : Script Unit}
    {limit : PauseLimit} {readies : List (List Handle)} {t₀ t₁ t₂ : Terminal}
    {ws es : List Event}
    (hcreate : create cfg clock output incoming typed line (.ofRegistrations registrations) limit =
      .ok t₀)
    (hwatch : Ends watchBoth t₀ () t₁ ws) (hpolls : Ends (polls readies) t₁ () t₂ es) :
    Apart cfg clock limit incoming typed readies t₂ es := by
  cases htransmitter : Transmitter.create cfg.mode cfg.delayUs limit with
  | error e =>
    rw [create, htransmitter] at hcreate
    cases hcreate
  | ok transmitter =>
    rw [create, htransmitter] at hcreate
    obtain rfl := Except.ok.inj hcreate
    obtain ⟨hset, ht₁⟩ := of_watchBoth hwatch
    have hmembers : t₁.watchSet.members = watchedHandles true := hset
    have hin := inbound_of_polls hpolls
    have hout := outbound_of_polls hpolls hmembers
    rw [ht₁] at hin hout
    have hshown : Ends (Viewer.showChunks _) (Viewer.unrefused _) () _ _ :=
      ignores_forEach Viewer.ignores_showChunk _ _ _ _ _ hin.1
    refine ⟨hshown, hin.2, ⟨transmitter, htransmitter, hout.1, ?_⟩, hout.2⟩
    rw [← sentBytes_filter, hout.1, sentBytes_typedTrace]

/-- A terminal whose keyboard ends while the line goes on. -/
theorem directions_apart_end_of_keyboard :
    ∃ t₀ t₁ t₂ ws es,
      create { delayUs := 0 } (.ofReadings []) ⟨[.ok ()], []⟩ [.ok [65], .ok [66]]
          [.ok [120], .ok []] ⟨[.ok (.count 1)], []⟩ (.ofRegistrations []) = .ok t₀ ∧
        Ends watchBoth t₀ () t₁ ws ∧
        Ends (polls [[.line, .keyboard], [.keyboard], [.line]]) t₁ () t₂ es ∧
        Apart { delayUs := 0 } (.ofReadings []) .none [.ok [65], .ok [66]] [.ok [120], .ok []]
          [[.line, .keyboard], [.keyboard], [.line]] t₂ es := by
  obtain ⟨t₀, t₁, t₂, ws, es, hcreate, hwatch, hpolls⟩ :
      ∃ t₀ t₁ t₂ ws es,
        create { delayUs := 0 } (.ofReadings []) ⟨[.ok ()], []⟩ [.ok [65], .ok [66]]
            [.ok [120], .ok []] ⟨[.ok (.count 1)], []⟩ (.ofRegistrations []) = .ok t₀ ∧
          Ends watchBoth t₀ () t₁ ws ∧
          Ends (polls [[.line, .keyboard], [.keyboard], [.line]]) t₁ () t₂ es :=
    ⟨_, _, _, _, _, rfl, rfl, rfl⟩
  exact ⟨t₀, t₁, t₂, ws, es, hcreate, hwatch, hpolls, directions_apart hcreate hwatch hpolls⟩

end Terminal

end SerialTerminal
