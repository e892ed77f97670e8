import SerialTerminal.Proofs.Terminal.Failures
import SerialTerminal.Session

/-!
# Outcome of a session

A session ends in one of two ways. If its port cannot be opened, that is recorded and nothing else
happens. Otherwise whatever ends it, the wait set and then the port are closed once, and the first
failure that was met decides about the exit status (`run_concluded`).

Failures of the operating system are fatal wherever they are raised, and so are refused values where
a handle is to be watched and a device that takes nothing. All others are passed on unchanged.
-/

namespace SerialTerminal

open Act

namespace Site

/-- What the port and the keyboard make of a failure that is raised at a site. -/
def passedOn : Site → Failure → Failure
  | .keyboardRead => Keyboard.readFailure
  | .lineRead => SerialPort.readFailure
  | .lineWrite => SerialPort.writeFailure
  | .lineFlush => SerialPort.flushFailure
  | _ => id

end Site

namespace Session

/-- The failures that await a session at each site. -/
def failures (s : Session) : Site → List Failure
  | .watch => s.watchSet.registrations.failures
  | .wait => s.waits.filterMap Wait.failure?
  | .keyboardRead => s.typed.failures
  | .lineRead => s.port.line.incoming.failures
  | .lineWrite => s.port.line.output.acceptances.filterMap Acceptance.refusal?
  | .lineFlush => s.port.line.output.flushes.failures
  | .screenWrite => s.output.writes.failures
  | .screenFlush => s.output.flushes.failures

/-- The run of the terminal of a session. -/
def talk (s : Session) (t : Terminal) : Step Terminal Unit :=
  (Terminal.watchBoth >>= fun _ => Terminal.pollAll s.waits).run t

/-- Holds of the failures that are fatal where they are raised. -/
def IsFatalAt (site : Option Site) (raw : Failure) : Prop :=
  raw.isSystem ∨ raw.isFatal ∨ site = some .watch ∧ raw.kind.isValue

/-- Says why a conversation ends, with the failure that it ends with and the events until then. -/
inductive Cause (cfg : Config) (s : Session) : Failure → List Event → Prop where
  /-- The pause between bytes is too long to be told in seconds. -/
  | pause (h : terminal cfg s = .error .delayTooLong) : Cause cfg s .delayTooLong []
  /-- A failure is raised at a site, or the display is stuck, or the clock cannot measure a pause.
  Of all failures that await the session only this one was used up. -/
  | raised {t : Terminal} {left : List Wait} {site : Option Site} {raw e : Failure}
      {rest : Site → List Failure} (ht : terminal cfg s = .ok t) (hleft : left <:+ s.waits)
      (hspent : Spent s.failures rest site raw)
      (hrest : ∀ k, (s.talk t).state.failures left k = (rest k).map k.passedOn)
      (hblamed : Blamed site (site.elim raw fun k => k.passedOn raw) e)
      (hfatal : IsFatalAt site raw → e.isFatal) (hpassed : ¬ IsFatalAt site raw → e = raw) :
      Cause cfg s e (s.talk t).events
  /-- The user stops the session after all waits. None of the failures was used up. -/
  | stopped {t : Terminal} (ht : terminal cfg s = .ok t)
      (hrest : ∀ k, (s.talk t).state.failures [] k = (s.failures k).map k.passedOn) :
      Cause cfg s .interrupt (s.talk t).events

/-- The exit status of a session that ended with a failure, unless it is passed on. -/
def result (e : Failure) : Except Failure Nat :=
  if e.isFatal then .ok 1 else if e.isKeyboardInterrupt then .ok 0 else .error e

/-- The record of why a session ended. -/
def resultRecord (cfg : Config) (e : Failure) : List Event :=
  if e.isFatal then [.record .error e.message]
  else if e.isKeyboardInterrupt then [.record .info s!"Interrupted, closing {cfg.device}"]
  else []

/-- The record of a port that could not be closed. -/
def closingRecord (name : String) : Script Unit → List Event
  | .error e :: _ => [.record .warning s!"Closing {name} failed: {e.message}"]
  | _ => []

section Accounts

private theorem failures_mapFailures {α : Type} (f : Failure → Failure) (script : Script α) :
    (script.mapFailures f).failures = script.failures.map f := by
  induction script with
  | nil => rfl
  | cons reply rest ih =>
    cases reply with
    | error e => exact congrArg (f e :: ·) ih
    | ok a => exact ih

private theorem refusal?_output (reply : Except Failure Acceptance) :
    Acceptance.refusal? ((reply.mapError SerialPort.writeFailure).map SerialPort.countOf) =
      (Acceptance.refusal? reply).map SerialPort.writeFailure := by
  rcases reply with e | acceptance
  · rfl
  · cases acceptance with
    | everything | nothing => rfl
    | count n =>
      change Acceptance.refusal? (.ok (.count n)) = _
      simp only [Acceptance.refusal?]
      split <;> rfl

private theorem filterMap_refusal?_output (replies : Script Acceptance) :
    ((replies.mapFailures SerialPort.writeFailure).map (·.map SerialPort.countOf)).filterMap
        Acceptance.refusal? =
      (replies.filterMap Acceptance.refusal?).map SerialPort.writeFailure := by
  rw [Script.mapFailures, List.map_map, List.filterMap_map, List.map_filterMap]
  exact congrArg (fun f => replies.filterMap f) (funext refusal?_output)

private theorem terminal_eq_ok {cfg : Config} {s : Session} {t : Terminal}
    (ht : terminal cfg s = .ok t) :
    ∃ transmitter, t =
      { inbound := ⟨.start cfg.mode cfg.timeFormat cfg.startTime s.clock s.output, s.port.incoming⟩
        outbound := ⟨transmitter, Keyboard.guarded s.typed, s.port.output⟩
        keyboardOpen := true
        watchSet := s.watchSet } := by
  rw [terminal, Terminal.create] at ht
  cases hc : Transmitter.create cfg.mode cfg.delayUs s.pauseLimit with
  | error e =>
    rw [hc] at ht
    cases ht
  | ok transmitter =>
    rw [hc] at ht
    exact ⟨transmitter, (Except.ok.inj ht).symm⟩

private theorem failures_terminal {cfg : Config} {s : Session} {t : Terminal}
    (ht : terminal cfg s = .ok t) :
    t.failures s.waits = fun k => (s.failures k).map k.passedOn := by
  obtain ⟨transmitter, rfl⟩ := terminal_eq_ok ht
  funext k
  cases k with
  | keyboardRead => exact failures_mapFailures _ _
  | lineRead => exact failures_mapFailures _ _
  | lineWrite => exact filterMap_refusal?_output _
  | lineFlush => exact failures_mapFailures _ _
  | _ => exact (List.map_id _).symm

private theorem isFatal_fatalIfSystem {f : Failure} (cause : String → FatalCause)
    (h : f.isSystem ∨ f.isFatal) : (f.fatalIfSystem cause).isFatal := by
  rw [Failure.fatalIfSystem]
  split
  · rfl
  · next hs => exact h.resolve_left hs

private theorem exists_cause {site : Option Site} {raw e : Failure}
    (h : Blamed site (site.elim raw fun k => k.passedOn raw) e) (hs : site ≠ some .watch) :
    ∃ cause, e = raw.fatalIfSystem cause := by
  generalize hseen : (site.elim raw fun k => k.passedOn raw) = seen at h
  cases h with
  | watch => exact absurd rfl hs
  | wait => exact ⟨.cannotWait, by rw [← hseen]; rfl⟩
  | keyboardRead | lineRead => exact ⟨.cannotRead, hseen.symm⟩
  | lineWrite => exact ⟨.cannotWrite, hseen.symm⟩
  | lineFlush => exact ⟨.cannotFlush, hseen.symm⟩
  | screenWrite | screenFlush | stuck => exact ⟨.cannotShow, by rw [← hseen]; rfl⟩
  | pause =>
    obtain rfl : raw = .pauseTooLong := hseen
    exact ⟨.cannotWrite, rfl⟩

/-- Whether a failure ends a session for good depends on where it is raised, and otherwise it is not
changed. -/
theorem of_blamed {site : Option Site} {raw e : Failure}
    (h : Blamed site (site.elim raw fun k => k.passedOn raw) e) :
    (IsFatalAt site raw → e.isFatal) ∧ (¬ IsFatalAt site raw → e = raw) := by
  by_cases hs : site = some .watch
  · subst hs
    generalize hseen : ((some Site.watch).elim raw fun k => k.passedOn raw) = seen at h
    obtain rfl : raw = seen := hseen
    cases h with
    | watch handle =>
      by_cases hf : (raw.isSystem || raw.kind.isValue) = true
      · rw [Failure.fatalIfSystemOrValue, if_pos hf]
        refine ⟨fun _ => rfl, fun hn => absurd ?_ hn⟩
        exact (Bool.or_eq_true_iff.mp hf).elim .inl fun hv => .inr (.inr ⟨rfl, hv⟩)
      · rw [Failure.fatalIfSystemOrValue, if_neg hf]
        have hn := not_or.mp fun ho => hf (Bool.or_eq_true_iff.mpr ho)
        refine ⟨fun h => (h.resolve_left hn.1).elim id fun hv => absurd hv.2 hn.2, fun _ => rfl⟩
  · obtain ⟨cause, rfl⟩ := exists_cause h hs
    constructor
    · rintro (hf | hf | ⟨hw, _⟩)
      · exact isFatal_fatalIfSystem cause (.inl hf)
      · exact isFatal_fatalIfSystem cause (.inr hf)
      · exact absurd hw hs
    · exact fun hn => if_neg fun hf => hn (.inl hf)

end Accounts

section Run

variable {cfg : Config} {s : Session} {line : Line}

private theorem run_open_of_ok (h : ∀ e rest, line.openings ≠ .error e :: rest) (name : String)
    (baudrate : Int) :
    (SerialPort.open name baudrate).run (.ofLine line) =
      ⟨.ok (), ⟨{ line with openings := line.openings.tail }, true, some name⟩,
        [.opened name baudrate]⟩ := by
  rcases line with ⟨incoming, output, _ | ⟨e | u, rest⟩, closings⟩
  · rfl
  · exact absurd rfl (h e rest)
  · rfl

private theorem run_open_of_error {raw : Failure} {rest : Script Unit}
    (h : line.openings = .error raw :: rest) (name : String) (baudrate : Int) :
    (SerialPort.open name baudrate).run (.ofLine line) =
      ⟨.error (raw.fatalIfSystemOrValue (.cannotOpen name)),
        ⟨{ line with openings := rest }, false, none⟩, [.opened name baudrate]⟩ := by
  rcases line with ⟨incoming, output, openings, closings⟩
  obtain rfl : openings = .error raw :: rest := h
  rfl

private theorem run_close (h : ∀ e rest, line.closings = .error e :: rest → e.isSystem)
    (name : String) :
    SerialPort.close.run ⟨line, true, some name⟩ =
      ⟨.ok (), ⟨{ line with closings := line.closings.tail }, false, some name⟩,
        .closed :: closingRecord name line.closings⟩ := by
  rcases line with ⟨incoming, output, openings, _ | ⟨e | u, rest⟩⟩
  · rfl
  · have hrun : SerialPort.close.run
        ⟨⟨incoming, output, openings, .error e :: rest⟩, true, some name⟩ =
        (emit .closed >>= fun _ => if e.isSystem
          then Act.log .warning s!"Closing {name} failed: {e.message}" else fail e).run
          ⟨⟨incoming, output, openings, rest⟩, false, some name⟩ := rfl
    rw [hrun, if_pos (h e rest rfl)]
    rfl
  · rfl

private theorem ends_verdict (e : Failure) :
    Ends (verdict cfg (.error e)) s (result e) s (resultRecord cfg e) := by
  simp only [verdict, result, resultRecord]
  split
  · exact (ends_emit _ s).bind (ends_done _ s)
  · split
    · exact (ends_emit _ s).bind (ends_done _ s)
    · exact ends_done _ s

private theorem finish_concludes {name : String} (hport : s.port = ⟨line, true, some name⟩)
    (h : ∀ e rest, line.closings = .error e :: rest → e.isSystem) (e : Failure) :
    ((finish cfg (.error e)).run s).outcome = result e ∧
      ((finish cfg (.error e)).run s).events =
        resultRecord cfg e ++ [.waitClosed, .closed] ++ closingRecord name line.closings := by
  have hclose : Ends (onPort SerialPort.close) s () _ _ := Ends.on (hport ▸ run_close h name)
  rw [finish, run_bind_of_ok _ (ends_verdict e), run_bind_of_ok _ (ends_emit .waitClosed s),
    run_bind_of_ok _ hclose, run_ofExcept]
  exact ⟨rfl, by simp⟩

private theorem eq_delayTooLong (hcfg : cfg.Valid) {e : Failure}
    (h : terminal cfg s = .error e) : e = .delayTooLong := by
  rw [terminal, Terminal.create, Transmitter.create, if_neg (Int.not_lt.mpr hcfg.2)] at h
  split at h
  · exact (Except.error.inj h).symm
  · cases h

private theorem converse_fails {s' : Session} (hcfg : cfg.Valid)
    (hterminal : terminal cfg s' = terminal cfg s) (hwaits : s'.waits = s.waits) :
    ∃ e talk, (converse cfg).run s' = ⟨.error e, s', talk⟩ ∧ Cause cfg s e talk ∧
      ∀ event ∈ talk, event.isTalk := by
  cases ht : terminal cfg s with
  | error e =>
    obtain rfl := eq_delayTooLong hcfg ht
    refine ⟨.delayTooLong, [], ?_, .pause ht, fun _ h => absurd h List.not_mem_nil⟩
    simp only [Act.run, converse, hterminal, ht]
  | ok t =>
    have hrun : (converse cfg).run s' = ⟨(s.talk t).outcome, s', (s.talk t).events⟩ := by
      simp only [Act.run, converse, hterminal, ht, hwaits]
      rfl
    have htalk : ∀ event ∈ (s.talk t).events, event.isTalk :=
      Emits.bind Terminal.emits_watchBoth (fun _ => Terminal.emits_pollAll s.waits) t
    have hfree := failures_terminal ht
    cases Terminal.run_fails t s.waits with
    | raised houtcome hleft hblamed hspent =>
      rw [hfree] at hspent
      obtain ⟨rest, raw, hused, hrest, rfl⟩ := hspent.of_map
      obtain ⟨hfatal, hpassed⟩ := of_blamed hblamed
      rw [hrun, talk, houtcome]
      exact ⟨_, _, rfl, .raised ht hleft hused hrest hblamed hfatal hpassed, htalk⟩
    | stopped houtcome hspent =>
      rw [hfree] at hspent
      rw [hrun, talk, houtcome]
      exact ⟨_, _, rfl, .stopped ht (congrFun hspent), htalk⟩

private theorem connect_refused (hport : s.port = .ofLine line) {raw : Failure}
    {rest : Script Unit} (h : line.openings = .error raw :: rest)
    (hkind : raw.isSystem ∨ raw.kind.isValue) :
    Ends (connect cfg) s (some 1)
      { s with port := ⟨{ line with openings := rest }, false, none⟩ }
      [.opened cfg.device cfg.baudrate, .record .error s!"{cfg.device}: {raw.message}"] := by
  have hfatal : raw.fatalIfSystemOrValue (.cannotOpen cfg.device) =
      .fatal (.cannotOpen cfg.device raw.message) := if_pos (Bool.or_eq_true_iff.mpr hkind)
  have hopen := run_open_of_error h cfg.device cfg.baudrate
  rw [hfatal, ← hport] at hopen
  refine Ends.bind (ends_attempt (run_on hopen)) ?_
  exact (ends_emit _ _).bind (ends_done _ _)

private theorem connect_opened (hport : s.port = .ofLine line)
    (h : ∀ e rest, line.openings ≠ .error e :: rest) :
    Ends (connect cfg) s none
      { s with
        port := ⟨{ line with openings := line.openings.tail }, true, some cfg.device⟩ }
      [.opened cfg.device cfg.baudrate,
        .record .info s!"connecting to {cfg.device} ({cfg.baudrate}) [OK]"] := by
  have hopen := run_open_of_ok h cfg.device cfg.baudrate
  rw [← hport] at hopen
  refine Ends.bind (ends_attempt (run_on hopen)) ?_
  exact (ends_emit _ _).bind (ends_done _ _)

/-- How a session ends whose port could not be opened, and how one does whose port was opened. -/
structure Concluded (cfg : Config) (s : Session) (step : Step Session Nat) : Prop where
  /-- A port that the operating system refuses, or whose name or speed is refused, is recorded. -/
  refused : ∀ raw rest, s.port.line.openings = .error raw :: rest →
    raw.isSystem ∨ raw.kind.isValue → step.outcome = .ok 1 ∧
      step.events = [.opened cfg.device cfg.baudrate,
        .record .error s!"{cfg.device}: {raw.message}"]
  /-- Once the port is open, the session goes on until there is a cause to end it. That decides
  about the result, and the wait set and the port are closed whatever it is. -/
  opened : (∀ raw rest, s.port.line.openings ≠ .error raw :: rest) →
    ∃ e talk, Cause cfg s e talk ∧ (∀ event ∈ talk, event.isTalk) ∧ step.outcome = result e ∧
      step.events =
        [.opened cfg.device cfg.baudrate,
          .record .info s!"connecting to {cfg.device} ({cfg.baudrate}) [OK]"]
        ++ talk ++ resultRecord cfg e ++ [.waitClosed, .closed]
        ++ closingRecord cfg.device s.port.line.closings

/-- How a session with a valid configuration ends. Its port is not open at first, and closing it
meets no failures but those of the operating system. -/
theorem run_concluded (hcfg : cfg.Valid) (hport : s.port = .ofLine line)
    (hclosings : ∀ e, .error e ∈ line.closings → e.isSystem) :
    Concluded cfg s ((run cfg).run s) where
  refused := by
    intro raw rest hopening hkind
    rw [hport] at hopening
    rw [run, run_bind_of_ok _ (connect_refused hport hopening hkind)]
    exact ⟨rfl, rfl⟩
  opened := by
    intro hopening
    rw [hport] at hopening ⊢
    let opened : Session :=
      { s with
        port := ⟨{ line with openings := line.openings.tail }, true, some cfg.device⟩ }
    have hconnect : Ends (connect cfg) s none opened _ := connect_opened hport hopening
    have hterminal : terminal cfg opened = terminal cfg s := by
      rw [terminal, terminal, hport]
      rfl
    obtain ⟨e, talk, hconverse, hcause, htalk⟩ := converse_fails hcfg hterminal rfl
    have hport' : opened.port =
        ⟨{ line with openings := line.openings.tail }, true, some cfg.device⟩ := rfl
    obtain ⟨houtcome, hevents⟩ := @finish_concludes cfg opened _ _ hport'
      (fun e rest h => hclosings e (h ▸ List.mem_cons_self)) e
    refine ⟨e, talk, hcause, htalk, ?_⟩
    rw [run, run_bind_of_ok _ hconnect, run_bind_of_ok _ (ends_attempt hconverse)]
    exact ⟨houtcome, by simp [hevents, SerialPort.ofLine]⟩

/-- A session that signals interrupt twice: at a wait, which is taken up again, and at a read of the
keyboard, which is fatal. Its port is not closed properly either. -/
theorem run_concluded_interrupted_keyboard :
    ∃ s : Session,
      s.waits = [.error (.raised .interruptedCall "EINTR"), .ok [.keyboard]] ∧
        s.typed = [.error (.raised .interruptedCall "EINTR")] ∧
        s.port.line.closings = [.error (.raised .system "gone")] ∧
        Concluded {} s ((run {}).run s) ∧ ((run {}).run s).outcome = .ok 1 := by
  let line : Line := ⟨[], ⟨[], []⟩, [], [.error (.raised .system "gone")]⟩
  let s : Session :=
    { port := .ofLine line
      typed := [.error (.raised .interruptedCall "EINTR")]
      clock := .ofReadings []
      output := ⟨[], []⟩
      watchSet := .ofRegistrations []
      waits := [.error (.raised .interruptedCall "EINTR"), .ok [.keyboard]] }
  have hclosings : ∀ e, .error e ∈ line.closings → e.isSystem := by
    intro e he
    obtain rfl : e = .raised .system "gone" := Except.error.inj (List.mem_singleton.mp he)
    rfl
  exact ⟨s, rfl, rfl, rfl, run_concluded Config.valid_default rfl hclosings, rfl⟩

end Run

end Session

end SerialTerminal
