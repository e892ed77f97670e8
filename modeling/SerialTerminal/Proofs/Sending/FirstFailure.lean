import SerialTerminal.Proofs.Rounding
import SerialTerminal.Proofs.Sending

/-!
# The first failure of sending

The mode and the delay tell beforehand how a chunk is sent, event by event (`idealTrace`). The
device may fail any write and any flush, and the clock may fail a pause. Then the events end with
the one that fails: it is not tried again, and nothing follows it, neither a pause nor a delimiter
(`send_until_failure`).

`Follows` says so of an act and a trace. Acts that follow a trace each, one after another, follow
one trace after the other.
-/

namespace SerialTerminal

namespace Event

/-- Holds of the writes to the device. -/
def isWritten : Event → Bool
  | .written _ => true
  | _ => false

/-- Holds of the flushes of the device. -/
def isFlushed : Event → Bool
  | .flushed => true
  | _ => false

/-- Holds of what sending does to the device, and of the pauses. -/
def isTransmission : Event → Bool
  | .written _ | .flushed | .slept _ => true
  | _ => false

end Event

namespace LineOutput

/-- The failure with which an event is met. Of the device the next answer counts, and of a pause
whether the clock can measure it. -/
def refusal? (limit : PauseLimit) (l : LineOutput) : Event → Option Failure
  | .written _ => l.acceptances.head?.bind Acceptance.refusal?
  | .flushed =>
    match l.flushes with
    | .error cause :: _ => some cause
    | _ => none
  | .slept pause => if limit pause then some .pauseTooLong else none
  | _ => none

/-- The device after some events. Each write and each flush took an answer. -/
def after (l : LineOutput) (es : List Event) : LineOutput :=
  ⟨l.acceptances.drop (es.countP Event.isWritten), l.flushes.drop (es.countP Event.isFlushed)⟩

/-- Holds if neither the device nor the clock fails any of some events. -/
def Grants (limit : PauseLimit) (l : LineOutput) (es : List Event) : Prop :=
  ∀ before e rest, es = before ++ e :: rest → (l.after before).refusal? limit e = none

variable {limit : PauseLimit} {l : LineOutput} {es fs : List Event}

@[simp] theorem after_nil (l : LineOutput) : l.after [] = l := rfl

/-- Events after events. -/
theorem after_append (l : LineOutput) (es fs : List Event) :
    l.after (es ++ fs) = (l.after es).after fs := by
  simp only [after, List.drop_drop, List.countP_append]

/-- No event fails where there is none. -/
theorem grants_nil (limit : PauseLimit) (l : LineOutput) : l.Grants limit [] := by
  intro before e rest h
  exact absurd h (by simp)

/-- One event. -/
theorem grants_singleton {e : Event} (h : l.refusal? limit e = none) : l.Grants limit [e] := by
  intro before e' rest he
  cases before with
  | nil =>
    obtain ⟨rfl, -⟩ := List.cons.inj he
    exact h
  | cons d before => simp at he

/-- Events that are granted one after another are granted together. -/
theorem Grants.append (hes : l.Grants limit es) (hfs : (l.after es).Grants limit fs) :
    l.Grants limit (es ++ fs) := by
  intro before e rest h
  rcases List.append_eq_append_iff.mp h with ⟨more, rfl, hmore⟩ | ⟨more, rfl, hmore⟩
  · rw [after_append]
    exact hfs more e rest hmore
  · cases more with
    | nil =>
      have he : (l.after (before ++ [])).refusal? limit e = none := hfs [] e rest hmore.symm
      rwa [List.append_nil] at he
    | cons d more =>
      obtain ⟨rfl, -⟩ := List.cons.inj hmore
      exact hes before e more rfl

end LineOutput

/-- What comes of a trace on a device, with a clock: all of it, or its front up to the first event
that fails. -/
inductive Transmitted (limit : PauseLimit) (l : LineOutput) (trace : List Event)
    (step : Step LineOutput Unit) : Prop where
  | whole (hgranted : l.Grants limit trace) (hstep : step = ⟨.ok (), l.after trace, trace⟩)
  | cut {before rest : List Event} {e : Event} {cause : Failure}
      (htrace : trace = before ++ e :: rest) (hgranted : l.Grants limit before)
      (hrefused : (l.after before).refusal? limit e = some cause)
      (hstep : step = ⟨.error cause, l.after (before ++ [e]), before ++ [e]⟩)

/-- Nothing comes of a trace whose first event fails, but for that event. -/
theorem Transmitted.of_refused {limit : PauseLimit} {l : LineOutput} {e : Event}
    {rest : List Event} {cause : Failure} {step : Step LineOutput Unit}
    (hrefused : l.refusal? limit e = some cause)
    (hstep : step = ⟨.error cause, l.after [e], [e]⟩) : Transmitted limit l (e :: rest) step :=
  have htrace : e :: rest = [] ++ e :: rest := rfl
  .cut htrace (l.grants_nil limit) hrefused hstep

/-- A trace comes to its end just if no event fails. -/
theorem Transmitted.outcome_eq_ok_iff {limit : PauseLimit} {l : LineOutput} {trace : List Event}
    {step : Step LineOutput Unit} (h : Transmitted limit l trace step) :
    step.outcome = .ok () ↔ l.Grants limit trace := by
  cases h with
  | whole hgranted hstep =>
    rw [hstep]
    exact iff_of_true rfl hgranted
  | cut htrace _ hrefused hstep =>
    rw [hstep]
    refine iff_of_false (fun h => by cases h) fun h => ?_
    rw [h _ _ _ htrace] at hrefused
    cases hrefused

namespace Transmitter

open Act

/-- The events with which a chunk is sent if none fails, as the mode and the delay want them. -/
def idealTrace (mode : DisplayMode) (delayUs : Nat) (data : List UInt8) : List Event :=
  (if mode = .slip then [.written [Slip.frameEnd]] else [])
    ++ (data.flatMap (fun b => [.written [b], .flushed]
          ++ if 0 < delayUs then [.slept (secondsOfMicroseconds delayUs)] else [])
      ++ if mode = .slip then [.written [Slip.frameEnd], .flushed] else [])

/-- Holds of an act that causes the events of a trace up to the first that fails. -/
def Follows (limit : PauseLimit) (x : Act LineOutput Unit) (trace : List Event) : Prop :=
  ∀ l, Transmitted limit l trace (x.run l)

section Follows

variable {limit : PauseLimit} {x y : Act LineOutput Unit} {es fs : List Event}

private theorem follows_done : Follows limit (done ()) [] :=
  fun l => .whole (l.grants_nil limit) rfl

/-- Acts one after another. -/
theorem Follows.bind (hx : Follows limit x es) (hy : Follows limit y fs) :
    Follows limit (x >>= fun _ => y) (es ++ fs) := by
  intro l
  cases hx l with
  | whole hes hrun =>
    rw [run_bind_of_ok _ hrun]
    cases hy (l.after es) with
    | whole hfs hstep =>
      rw [hstep]
      refine .whole (hes.append hfs) ?_
      rw [LineOutput.after_append]
    | @cut before rest e cause htrace hbefore hrefused hstep =>
      rw [← LineOutput.after_append] at hrefused
      have hsplit : es ++ fs = (es ++ before) ++ e :: rest := by rw [htrace, List.append_assoc]
      refine .cut hsplit (hes.append hbefore) hrefused ?_
      rw [hstep, List.append_assoc, LineOutput.after_append l]
  | @cut before rest e cause htrace hbefore hrefused hrun =>
    have hsplit : es ++ fs = before ++ e :: (rest ++ fs) := by
      rw [htrace, List.append_assoc, List.cons_append]
    rw [run_bind_of_error _ hrun]
    exact .cut hsplit hbefore hrefused rfl

private theorem follows_forEach {α : Type} {f : α → Act LineOutput Unit} {g : α → List Event}
    (h : ∀ a, Follows limit (f a) (g a)) (data : List α) :
    Follows limit (forEach f data) (data.flatMap g) := by
  induction data with
  | nil => exact follows_done
  | cons a rest ih => exact (h a).bind ih

/-- A record asks nothing of anyone. -/
private theorem follows_log (text : String) :
    Follows limit (Act.log .debug text) [.record .debug text] :=
  fun _ => .whole (LineOutput.grants_singleton rfl) rfl

private theorem follows_takePause {t : Transmitter} (h : t.tooLong = limit t.pause) :
    Follows limit t.takePause [.slept t.pause] := by
  intro l
  have hrun := t.run_takePause l
  have hsame : l.after [.slept t.pause] = l := rfl
  by_cases hlimit : limit t.pause
  · rw [h, if_pos hlimit] at hrun
    exact .of_refused (if_pos hlimit) (hsame.symm ▸ hrun)
  · rw [h, if_neg hlimit] at hrun
    exact .whole (LineOutput.grants_singleton (if_neg hlimit)) (hsame.symm ▸ hrun)

private theorem follows_put (b : UInt8) : Follows limit (put [b]) [.written [b]] := by
  intro l
  have hafter : l.after [.written [b]] = { l with acceptances := l.acceptances.tail } := by
    simp [LineOutput.after, Event.isWritten, Event.isFlushed]
  have hrun := run_put b l
  rw [← hafter] at hrun
  cases hreply : l.acceptances.head?.bind Acceptance.refusal? with
  | none =>
    rw [hreply] at hrun
    exact .whole (LineOutput.grants_singleton hreply) hrun
  | some cause =>
    rw [hreply] at hrun
    exact .of_refused hreply hrun

private theorem follows_flush : Follows limit LineOutput.flush [.flushed] := by
  rintro ⟨acceptances, _ | ⟨cause | _, rest⟩⟩
  · exact .whole (LineOutput.grants_singleton rfl) rfl
  · exact .of_refused rfl rfl
  · exact .whole (LineOutput.grants_singleton rfl) rfl

/-- A chunk is sent event by event. -/
theorem follows_send {t : Transmitter} (h : t.tooLong = limit t.pause) (data : List UInt8) :
    Follows limit (t.send data) (t.trace data) := by
  have hbyte (b : UInt8) : Follows limit (t.sendByte b) (t.byteTrace b) := by
    refine (follows_put b).bind (follows_flush.bind ?_)
    split
    · exact follows_takePause h
    · exact follows_done
  have hbytes : Follows limit (forEach t.sendByte data) (data.flatMap t.byteTrace) :=
    follows_forEach hbyte data
  refine (follows_log _).bind ?_
  by_cases hf : t.framed
  · simp only [hf, ↓reduceIte]
    exact (follows_put _).bind (hbytes.bind ((follows_put _).bind follows_flush))
  · simp only [hf, Bool.false_eq_true, ↓reduceIte]
    exact follows_done.bind (hbytes.bind follows_done)

end Follows

section Created

variable {delayUs : Nat}

/-- A pause lasts just if the delay is not zero. -/
theorem isPositive_secondsOfMicroseconds (delayUs : Nat) :
    (secondsOfMicroseconds delayUs).isPositive = decide (0 < delayUs) := by
  by_cases h : delayUs = 0
  · subst h
    rfl
  · have hlog : Nat.log2 1000000 = 19 := by decide +kernel
    rw [decide_eq_true (Nat.pos_of_ne_zero h)]
    exact Binary64.isPositive_ofRatio h (by decide) (by omega)

/-- A delay that is a number of seconds makes a transmitter. -/
theorem create_eq_ok (mode : DisplayMode) (limit : PauseLimit)
    (h : ∀ negative, secondsOfMicroseconds delayUs ≠ .infinite negative) :
    create mode delayUs limit = .ok ⟨mode = .slip, secondsOfMicroseconds delayUs,
      limit (secondsOfMicroseconds delayUs)⟩ := by
  rw [create, if_neg (by omega), Int.toNat_natCast]
  split
  · next negative hinfinite => exact absurd hinfinite (h negative)
  · rfl

/-- It sends as the mode and the delay want it. -/
theorem trace_eq_idealTrace (mode : DisplayMode) (delayUs : Nat) (tooLong : Bool)
    (data : List UInt8) :
    (⟨mode = .slip, secondsOfMicroseconds delayUs, tooLong⟩ : Transmitter).trace data =
      .record .debug s!"SEND {data.length} bytes" :: idealTrace mode delayUs data := by
  have hbyte : byteTrace ⟨mode = .slip, secondsOfMicroseconds delayUs, tooLong⟩ = fun b =>
      [.written [b], .flushed]
        ++ if 0 < delayUs then [.slept (secondsOfMicroseconds delayUs)] else [] := by
    funext b
    simp only [byteTrace, isPositive_secondsOfMicroseconds, decide_eq_true_eq]
  simp only [trace, idealTrace, hbyte, decide_eq_true_eq, List.singleton_append]

end Created

section Joined

/-- Holds of what ends alike, on the same device, and differs in records only. -/
structure SentAlike (s s' : Step LineOutput Unit) : Prop where
  outcome : s.outcome = s'.outcome
  state : s.state = s'.state
  events : s.events.filter Event.isTransmission = s'.events.filter Event.isTransmission

variable {x y : Act LineOutput Unit}

private theorem SentAlike.trans {s₁ s₂ s₃ : Step LineOutput Unit} (h : SentAlike s₁ s₂)
    (h' : SentAlike s₂ s₃) : SentAlike s₁ s₃ :=
  ⟨h.outcome.trans h'.outcome, h.state.trans h'.state, h.events.trans h'.events⟩

private theorem SentAlike.symm {s s' : Step LineOutput Unit} (h : SentAlike s s') :
    SentAlike s' s := ⟨h.outcome.symm, h.state.symm, h.events.symm⟩

/-- A record makes no difference. -/
private theorem sentAlike_log (text : String) (x : Act LineOutput Unit) (l : LineOutput) :
    SentAlike ((Act.log .debug text >>= fun _ => x).run l) (x.run l) := ⟨rfl, rfl, rfl⟩

private theorem sentAlike_bind (x : Act LineOutput Unit) {y z : Act LineOutput Unit}
    (h : ∀ l, SentAlike (y.run l) (z.run l)) (l : LineOutput) :
    SentAlike ((x >>= fun _ => y).run l) ((x >>= fun _ => z).run l) := by
  rcases hx : x.run l with ⟨cause | _, l', es⟩
  · rw [run_bind_of_error _ hx, run_bind_of_error _ hx]
    exact ⟨rfl, rfl, rfl⟩
  · rw [run_bind_of_ok _ hx, run_bind_of_ok _ hx]
    refine ⟨(h l').outcome, (h l').state, ?_⟩
    rw [List.filter_append, List.filter_append, (h l').events]

/-- Chunks without delimiters may be joined: one chunk is sent like its parts, one after the other,
also where something fails. -/
theorem sentAlike_append {t : Transmitter} (h : t.framed = false) (xs ys : List UInt8)
    (l : LineOutput) :
    SentAlike ((t.send (xs ++ ys)).run l) ((t.send xs >>= fun _ => t.send ys).run l) := by
  have hsend (data : List UInt8) : t.send data =
      Act.log .debug s!"SEND {data.length} bytes" >>= fun _ => forEach t.sendByte data := by
    simp only [send, h, Bool.false_eq_true, ↓reduceIte]
    rw [bind_pure_unit]
  rw [hsend, hsend, hsend, forEach_append, bind_assoc]
  refine (sentAlike_log _ _ l).trans (.symm ?_)
  exact (sentAlike_log _ _ l).trans (sentAlike_bind _ (sentAlike_log _ _) l)

end Joined

/-- A chunk is sent as the mode and the delay want it, up to the first write, flush or pause that
fails. All of it is sent just if none does. Where there are no delimiters, it makes no difference
how bytes are cut into chunks. -/
theorem send_until_failure (mode : DisplayMode) {delayUs : Nat}
    (hdelay : ∀ negative, secondsOfMicroseconds delayUs ≠ .infinite negative)
    (limit : PauseLimit) (line : LineOutput) :
    ∃ t, create mode delayUs limit = .ok t ∧
      (∀ data,
        let trace := .record .debug s!"SEND {data.length} bytes" :: idealTrace mode delayUs data
        let step := (t.send data).run line
        Transmitted limit line trace step ∧ (step.outcome = .ok () ↔ line.Grants limit trace)) ∧
      (mode ≠ .slip → ∀ xs ys,
        SentAlike ((t.send (xs ++ ys)).run line)
          ((t.send xs >>= fun _ => t.send ys).run line)) := by
  refine ⟨_, create_eq_ok mode limit hdelay, fun data => ?_, fun hmode xs ys => ?_⟩
  · have hsent := @follows_send limit
      ⟨mode = .slip, secondsOfMicroseconds delayUs, limit (secondsOfMicroseconds delayUs)⟩ rfl
      data line
    rw [trace_eq_idealTrace] at hsent
    exact ⟨hsent, hsent.outcome_eq_ok_iff⟩
  · exact sentAlike_append (decide_eq_false hmode) xs ys line

/-- A device that takes nothing of the second byte. The delimiter behind it is not sent. -/
theorem send_until_failure_nothing_accepted :
    let line : LineOutput := ⟨[.ok .everything, .ok (.count 1), .ok .nothing], []⟩
    (∀ negative, secondsOfMicroseconds 6000 ≠ .infinite negative) ∧
      ∃ t, create .slip (6000 : Nat) = .ok t ∧
        Transmitted .none line (.record .debug "SEND 2 bytes" :: idealTrace .slip 6000 [1, 2])
          ((t.send [1, 2]).run line) ∧
        ((t.send [1, 2]).run line).outcome ≠ .ok () := by
  intro line
  have hdelay : ∀ negative, secondsOfMicroseconds 6000 ≠ .infinite negative := by decide +kernel
  obtain ⟨t, ht, hsent, -⟩ := send_until_failure .slip hdelay .none line
  refine ⟨hdelay, t, ht, (hsent [1, 2]).1, fun hok => ?_⟩
  have hgranted := (hsent [1, 2]).2.mp hok
  have hnone := hgranted [.record .debug "SEND 2 bytes", .written [Slip.frameEnd], .written [1],
    .flushed, .slept (secondsOfMicroseconds 6000)] (.written [2]) _ rfl
  cases hnone

/-- Where nanoseconds are counted, pauses of up to 292 years can be made. -/
example :
    PauseLimit.nanoseconds (secondsOfMicroseconds 9223372036854774) = false ∧
      PauseLimit.nanoseconds (secondsOfMicroseconds 9223372036854777) = true := by
  decide +kernel

end Transmitter

end SerialTerminal
