import SerialTerminal.Proofs.Charges
import SerialTerminal.Proofs.Terminal.Events

/-!
# Failures of a terminal

A terminal runs until something fails. `run_fails` tells what that is: the first failure that a
collaborator raises at one of the sites where the terminal asks for something, or what a display
cannot show, or a pause that is too long, or the user's request to stop. No failure of another site
has been met before. A wait that a signal cut short is no failure.
-/

namespace SerialTerminal

open Act

/-- The sites where a terminal asks a collaborator for something. -/
inductive Site where
  | watch
  | wait
  | keyboardRead
  | lineRead
  | lineWrite
  | lineFlush
  | screenWrite
  | screenFlush
deriving DecidableEq, Repr

/-- The failure that a wait leads to, unless a signal cut it short. -/
def Wait.failure? : Wait → Option Failure
  | .error e => if e.isInterruptedCall then none else some e
  | .ok _ => none

/-- The failures that await a terminal at each site, with the waits that are to come. -/
def Terminal.failures (t : Terminal) (waits : List Wait) : Site → List Failure
  | .watch => t.watchSet.registrations.failures
  | .wait => waits.filterMap Wait.failure?
  | .keyboardRead => t.outbound.typed.failures
  | .lineRead => t.inbound.incoming.failures
  | .lineWrite => t.outbound.line.acceptances.filterMap Acceptance.refusal?
  | .lineFlush => t.outbound.line.flushes.failures
  | .screenWrite => t.inbound.viewer.output.writes.failures
  | .screenFlush => t.inbound.viewer.output.flushes.failures

/-- Says what a terminal fails with if a failure is raised at a site, or at none. -/
inductive Blamed : Option Site → Failure → Failure → Prop where
  | watch (handle : Handle) (raw : Failure) :
      Blamed (some .watch) raw (raw.fatalIfSystemOrValue (.cannotWatch handle.name))
  | wait (raw : Failure) : Blamed (some .wait) raw (raw.fatalIfSystem .cannotWait)
  | keyboardRead (raw : Failure) : Blamed (some .keyboardRead) raw raw
  | lineRead (raw : Failure) : Blamed (some .lineRead) raw raw
  | lineWrite (raw : Failure) : Blamed (some .lineWrite) raw raw
  | lineFlush (raw : Failure) : Blamed (some .lineFlush) raw raw
  | screenWrite (raw : Failure) :
      Blamed (some .screenWrite) raw (raw.fatalIfSystem .cannotShow)
  | screenFlush (raw : Failure) :
      Blamed (some .screenFlush) raw (raw.fatalIfSystem .cannotShow)
  /-- The display cannot show what it is given. -/
  | stuck {raw : Failure} (h : Viewer.Stuck raw) : Blamed none raw (raw.fatalIfSystem .cannotShow)
  /-- The clock cannot measure the pause behind a byte. -/
  | pause : Blamed none .pauseTooLong .pauseTooLong

section Screen

/-- Says how a viewer fails: with what its output raises, or with a failure of its own. -/
inductive Viewer.Raises : Option Site → Failure → Failure → Prop where
  | screenWrite (raw : Failure) : Raises (some .screenWrite) raw raw
  | screenFlush (raw : Failure) : Raises (some .screenFlush) raw raw
  | stuck {raw : Failure} (h : Viewer.Stuck raw) : Raises none raw raw

/-- The failures that await a viewer at the sites of its output. -/
def outputFailures (o : Output) : Site → List Failure
  | .screenWrite => o.writes.failures
  | .screenFlush => o.flushes.failures
  | _ => []

private theorem charges_outputWrite (bytes : List UInt8) :
    Charges outputFailures Viewer.Raises (Output.write bytes) := by
  have hn := charges_next Site.screenWrite Viewer.Raises.screenWrite ()
  refine (hn.on ?_).bind fun _ => charges_emit _
  intro k
  cases k with
  | screenWrite => exact .inl ⟨fun _ => rfl, fun _ _ => rfl⟩
  | _ => exact .inr ⟨fun _ => rfl, fun _ _ => rfl⟩

private theorem charges_outputFlush : Charges outputFailures Viewer.Raises Output.flush := by
  have hn := charges_next Site.screenFlush Viewer.Raises.screenFlush ()
  refine (hn.on ?_).bind fun _ => charges_emit _
  intro k
  cases k with
  | screenFlush => exact .inl ⟨fun _ => rfl, fun _ _ => rfl⟩
  | _ => exact .inr ⟨fun _ => rfl, fun _ _ => rfl⟩

private theorem within_output :
    Within outputFailures (fun v : Viewer => outputFailures v.output) Viewer.output
      fun output v => { v with output := output } :=
  fun _ => .inl ⟨fun _ => rfl, fun _ _ => rfl⟩

/-- Showing bytes uses up a refusal of the output only where it fails for it. -/
theorem charges_of_madeOf {α : Type} {x : Act Viewer α}
    (h : MadeOf Viewer.IsCall α x) :
    Charges (fun v : Viewer => outputFailures v.output) Viewer.Raises x := by
  refine h.charges fun β y hy => ?_
  cases hy with
  | look g => exact charges_gets _
  | setView view => exact charges_modify fun _ => rfl
  | write bytes => exact (charges_outputWrite bytes).on within_output
  | flush => exact charges_outputFlush.on within_output
  | now => exact charges_of_ends fun v => ⟨_, _, [], rfl, rfl⟩
  | warn text => exact charges_emit _
  | fail hs => exact charges_fail (.stuck hs)

private def inboundFailures (i : Inbound) : Site → List Failure
  | .lineRead => i.incoming.failures
  | site => outputFailures i.viewer.output site

private theorem charges_inboundRead (limit : Nat) :
    Charges inboundFailures Blamed (Inbound.read limit) := by
  have hn := charges_nextChunk Site.lineRead Blamed.lineRead limit
  refine ((charges_emit _).bind fun _ => hn).on ?_
  intro k
  cases k with
  | lineRead => exact .inl ⟨fun _ => rfl, fun _ _ => rfl⟩
  | _ => exact .inr ⟨fun _ => rfl, fun _ _ => rfl⟩

private theorem charges_inboundRender (data : List UInt8) :
    Charges inboundFailures Blamed (Inbound.render data) := by
  refine ((charges_of_madeOf (Viewer.madeOf_feed_flush data)).on ?_).mapFailure ?_
  · intro k
    cases k with
    | screenWrite | screenFlush => exact .inl ⟨fun _ => rfl, fun _ _ => rfl⟩
    | _ => exact .inr ⟨fun _ => rfl, fun _ _ => rfl⟩
  · intro site raw e h
    cases h with
    | screenWrite => exact .screenWrite raw
    | screenFlush => exact .screenFlush raw
    | stuck hs => exact .stuck hs

end Screen

section Line

private def lineFailures (l : LineOutput) : Site → List Failure
  | .lineWrite => l.acceptances.filterMap Acceptance.refusal?
  | .lineFlush => l.flushes.failures
  | _ => []

private theorem charges_put (b : UInt8) : Charges lineFailures Blamed (Transmitter.put [b]) where
  ok := by
    intro l a l' es h
    rw [Ends, Transmitter.run_put] at h
    rcases l with ⟨_ | ⟨reply, rest⟩, flushes⟩
    · cases h
      rfl
    · cases hr : Acceptance.refusal? reply with
      | some e =>
        simp only [List.head?_cons, Option.bind_some, hr] at h
        cases h
      | none =>
        simp only [List.head?_cons, Option.bind_some, hr] at h
        cases h
        funext site
        cases site <;> simp [lineFailures, hr]
  error := by
    intro l e l' es h
    rw [Transmitter.run_put] at h
    rcases l with ⟨_ | ⟨reply, rest⟩, flushes⟩
    · cases h
    · cases hr : Acceptance.refusal? reply with
      | none =>
        simp only [List.head?_cons, Option.bind_some, hr] at h
        cases h
      | some raw =>
        simp only [List.head?_cons, Option.bind_some, hr] at h
        cases h
        refine ⟨_, _, .lineWrite e, .first _ _ ?_ fun site hs => ?_⟩
        · simp [lineFailures, hr]
        · cases site <;> first | rfl | exact absurd rfl hs

private theorem charges_lineFlush : Charges lineFailures Blamed LineOutput.flush := by
  have hn := charges_next Site.lineFlush Blamed.lineFlush ()
  refine (charges_emit _).bind fun _ => hn.on ?_
  intro k
  cases k with
  | lineFlush => exact .inl ⟨fun _ => rfl, fun _ _ => rfl⟩
  | _ => exact .inr ⟨fun _ => rfl, fun _ _ => rfl⟩

private theorem charges_send (transmitter : Transmitter) (data : List UInt8) :
    Charges lineFailures Blamed (transmitter.send data) := by
  refine (transmitter.madeOf_send data).charges fun β y hy => ?_
  cases hy with
  | put b => exact charges_put b
  | flush => exact charges_lineFlush
  | sleep =>
    refine (charges_emit _).bind fun _ => ?_
    split
    · exact charges_fail .pause
    · exact charges_done ()
  | note text => exact charges_emit _

private def outboundFailures (o : Outbound) : Site → List Failure
  | .keyboardRead => o.typed.failures
  | site => lineFailures o.line site

private theorem charges_outboundRead (limit : Nat) :
    Charges outboundFailures Blamed (Outbound.read limit) := by
  have hn := charges_nextChunk Site.keyboardRead Blamed.keyboardRead limit
  refine ((charges_emit _).bind fun _ => hn).on ?_
  intro k
  cases k with
  | keyboardRead => exact .inl ⟨fun _ => rfl, fun _ _ => rfl⟩
  | _ => exact .inr ⟨fun _ => rfl, fun _ _ => rfl⟩

private theorem charges_outboundSend (data : List UInt8) :
    Charges outboundFailures Blamed (Outbound.send data) := by
  refine (charges_gets _).bind fun transmitter => (charges_send transmitter data).on ?_
  intro k
  cases k with
  | lineWrite | lineFlush => exact .inl ⟨fun _ => rfl, fun _ _ => rfl⟩
  | _ => exact .inr ⟨fun _ => rfl, fun _ _ => rfl⟩

end Line

namespace Terminal

section Service

variable {α : Type} (waits : List Wait)

private theorem charges_onInbound {x : Act Inbound α} (h : Charges inboundFailures Blamed x) :
    Charges (fun t : Terminal => t.failures waits) Blamed (onInbound x) := by
  refine h.on ?_
  intro k
  cases k with
  | lineRead | screenWrite | screenFlush => exact .inl ⟨fun _ => rfl, fun _ _ => rfl⟩
  | _ => exact .inr ⟨fun _ => rfl, fun _ _ => rfl⟩

private theorem charges_onOutbound {x : Act Outbound α}
    (h : Charges outboundFailures Blamed x) :
    Charges (fun t : Terminal => t.failures waits) Blamed (onOutbound x) := by
  refine h.on ?_
  intro k
  cases k with
  | keyboardRead | lineWrite | lineFlush => exact .inl ⟨fun _ => rfl, fun _ _ => rfl⟩
  | _ => exact .inr ⟨fun _ => rfl, fun _ _ => rfl⟩

private theorem charges_onWatchSet {x : Act WatchSet α}
    (h : Charges (fun w : WatchSet => pendingAt Site.watch w.registrations) Blamed x) :
    Charges (fun t : Terminal => t.failures waits) Blamed (onWatchSet x) := by
  refine h.on ?_
  intro k
  cases k with
  | watch => exact .inl ⟨fun _ => rfl, fun _ _ => rfl⟩
  | _ => exact .inr ⟨fun _ => rfl, fun _ _ => rfl⟩

private theorem charges_watch (handle : Handle) :
    Charges (fun w : WatchSet => pendingAt Site.watch w.registrations) Blamed
      (WatchSet.watch handle) := by
  have hn : Charges (pendingAt Site.watch)
      (fun site raw e => site = some .watch ∧ e = raw) (Script.next ()) :=
    charges_next Site.watch (fun _ => ⟨rfl, rfl⟩) ()
  have hrequest : Charges (fun w : WatchSet => pendingAt Site.watch w.registrations) _
      (Act.on WatchSet.registrations (fun replies w => { w with registrations := replies })
        (Script.next ())) :=
    hn.on fun _ => .inl ⟨fun _ => rfl, fun _ _ => rfl⟩
  refine (hrequest.mapFailure ?_).bind fun _ => (charges_emit _).bind fun _ =>
    charges_modify fun _ => rfl
  rintro _ raw _ ⟨rfl, rfl⟩
  exact .watch handle _

private theorem charges_watchBoth :
    Charges (fun t : Terminal => t.failures waits) Blamed watchBoth :=
  (charges_onWatchSet waits (charges_watch .keyboard)).bind fun _ =>
    charges_onWatchSet waits (charges_watch .line)

private theorem charges_unwatch (handle : Handle) :
    Charges (fun w : WatchSet => pendingAt Site.watch w.registrations) Blamed
      (WatchSet.unwatch handle) := by
  refine (charges_gets _).bind fun members => ?_
  split
  · exact (charges_emit _).bind fun _ => charges_modify fun _ => rfl
  · exact charges_done ()

/-- A round uses up a failure only where it fails for it. -/
theorem charges_serve (ready : List Handle) :
    Charges (fun t : Terminal => t.failures waits) Blamed (serve ready) := by
  rw [serve_eq]
  refine Charges.bind ?_ fun _ => ?_
  · split
    · refine (charges_onOutbound waits (charges_outboundRead readLimit)).bind fun data => ?_
      split
      · refine (charges_onWatchSet waits (charges_unwatch .keyboard)).bind fun _ => ?_
        refine Charges.bind (charges_modify fun t => ?_) fun _ => charges_emit _
        funext site
        cases site <;> rfl
      · exact charges_onOutbound waits (charges_outboundSend data)
    · exact charges_done ()
  · split
    · exact (charges_onInbound waits (charges_inboundRead readLimit)).bind fun data =>
        charges_onInbound waits (charges_inboundRender data)
    · exact charges_done ()

end Service

/-- Says how a run of a terminal fails. -/
inductive Fails (t : Terminal) (waits : List Wait) (step : Step Terminal Unit) : Prop where
  /-- The first failure that is pending at a site is raised, or the display is stuck, or a pause is
  too long. Nothing else was used up of the failures that awaited the terminal. -/
  | raised {e : Failure} {left : List Wait} {site : Option Site} {raw : Failure}
      (houtcome : step.outcome = .error e) (hleft : left <:+ waits) (hblamed : Blamed site raw e)
      (hspent : Spent (t.failures waits) (step.state.failures left) site raw)
  /-- There are no more waits, so the user stops the terminal. Nothing was used up. -/
  | stopped (houtcome : step.outcome = .error .interrupt)
      (hspent : step.state.failures [] = t.failures waits)

private theorem Fails.after {x : Act Terminal Unit} {f : Unit → Act Terminal Unit}
    {t t' : Terminal} {waits rest : List Wait} {es : List Event} (hx : Ends x t () t' es)
    (hrest : rest <:+ waits) (hp : t'.failures rest = t.failures waits)
    (h : Fails t' rest ((f ()).run t')) : Fails t waits ((x >>= f).run t) := by
  rw [run_bind_of_ok f hx]
  cases h with
  | raised houtcome hleft hblamed hspent =>
    rw [hp] at hspent
    exact .raised houtcome (hleft.trans hrest) hblamed hspent
  | stopped houtcome hspent => exact .stopped houtcome (hspent.trans hp)

private theorem failures_cons_of_none (wait : Wait) (h : wait.failure? = none) (t : Terminal)
    (rest : List Wait) : t.failures (wait :: rest) = t.failures rest := by
  funext site
  cases site <;> simp [failures, h]

/-- Rounds go on until something fails. -/
theorem pollAll_fails (t : Terminal) (waits : List Wait) :
    Fails t waits ((pollAll waits).run t) := by
  induction waits generalizing t with
  | nil => exact .stopped rfl rfl
  | cons wait rest ih =>
    have hsuffix : rest <:+ wait :: rest := List.suffix_cons wait rest
    cases wait with
    | ok ready =>
      have hfree := failures_cons_of_none (.ok ready) rfl t rest
      have hserve := charges_serve rest ready
      rcases hrun : (serve ready).run t with ⟨outcome, t', es⟩
      cases outcome with
      | ok u => exact Fails.after hrun hsuffix ((hserve.ok hrun).trans hfree.symm) (ih t')
      | error e =>
        obtain ⟨site, raw, hb, hs⟩ := hserve.error hrun
        rw [← hfree] at hs
        have hpoll : (pollAll (.ok ready :: rest)).run t = ⟨.error e, t', es⟩ :=
          run_bind_of_error _ hrun
        rw [hpoll]
        exact .raised rfl hsuffix hb hs
    | error e =>
      by_cases hi : e.isInterruptedCall
      · have hfree := failures_cons_of_none (.error e) (if_pos hi) t rest
        have hpoll : Ends (poll (.error e)) t () t [.record .debug "interrupted system call"] := by
          rw [poll, if_pos hi]
          rfl
        exact Fails.after hpoll hsuffix hfree.symm (ih t)
      · have hpoll : (poll (.error e)).run t = ⟨.error (e.fatalIfSystem .cannotWait), t, []⟩ := by
          rw [poll, if_neg hi]
          rfl
        have hrun : (pollAll (.error e :: rest)).run t = _ := run_bind_of_error _ hpoll
        rw [hrun]
        refine .raised rfl hsuffix (.wait e) (.first _ _ ?_ fun site hs => ?_)
        · simp [failures, Wait.failure?, hi]
        · cases site <;> first | rfl | exact absurd rfl hs

/-- A terminal runs until something fails. -/
theorem run_fails (t : Terminal) (waits : List Wait) :
    Fails t waits ((watchBoth >>= fun _ => pollAll waits).run t) := by
  have hwatch := charges_watchBoth waits
  rcases hrun : watchBoth.run t with ⟨outcome, t', es⟩
  cases outcome with
  | ok u => exact Fails.after hrun (List.suffix_refl _) (hwatch.ok hrun) (pollAll_fails t' waits)
  | error e =>
    obtain ⟨site, raw, hb, hs⟩ := hwatch.error hrun
    rw [run_bind_of_error _ hrun]
    exact .raised rfl (List.suffix_refl _) hb hs

end Terminal

end SerialTerminal
