import SerialTerminal.Proofs.Display.Calls
import SerialTerminal.Proofs.Sending
import SerialTerminal.Terminal

/-!
# Events of a terminal

Which events a terminal can cause, whether it goes on or fails: those of the line and the screen on
the one hand, those of the keyboard and of sending on the other, and requests to watch.
-/

namespace SerialTerminal

namespace Event

/-- Holds of the events of the direction from the line to the screen. -/
def isInbound : Event → Bool
  | .read .line _ | .shown _ | .shownFlushed | .record .warning _ => true
  | _ => false

/-- Holds of the events that what is typed leads to. -/
def isTyping : Event → Bool
  | .read .keyboard _ | .written _ | .flushed | .slept _ | .unwatched _ => true
  | .record .debug _ | .record .info _ => true
  | _ => false

/-- Holds of the reads from a source. -/
def isRead : Event → Bool
  | .read _ _ => true
  | _ => false

/-- Holds of the events of a terminal: it opens and closes nothing, and records no error. -/
def isTalk : Event → Bool
  | .opened _ _ | .closed | .waitClosed | .record .error _ => false
  | _ => true

/-- What a viewer does belongs to the inbound direction. -/
theorem isInbound_of_isDisplay (e : Event) (h : e.isDisplay) : e.isInbound := by
  cases e with
  | shown | shownFlushed => rfl
  | record severity => cases severity <;> first | rfl | cases h
  | _ => cases h

/-- Sending is part of what typed bytes lead to, and reads nothing. -/
theorem isTyping_of_isSending (e : Event) (h : e.isSending) : e.isTyping && !e.isRead := by
  cases e with
  | record severity => cases severity <;> first | rfl | cases h
  | written | flushed | slept => rfl
  | _ => cases h

/-- The inbound direction opens and closes nothing. -/
theorem isTalk_of_isInbound (e : Event) (h : e.isInbound) : e.isTalk := by
  cases e with
  | read | shown | shownFlushed => rfl
  | record severity => cases severity <;> first | rfl | cases h
  | _ => cases h

/-- Nor does the outbound direction. -/
theorem isTalk_of_isTyping (e : Event) (h : e.isTyping) : e.isTalk := by
  cases e with
  | record severity => cases severity <;> first | rfl | cases h
  | read | written | flushed | slept | unwatched => rfl
  | _ => cases h

end Event

namespace Terminal

open Act

/-- The keyboard is served before the line. -/
theorem serve_eq (ready : List Handle) :
    serve ready = (if .keyboard ∈ ready then serveKeyboard else done ()) >>= fun _ =>
      if .line ∈ ready then serveLine else done () := by
  unfold serve
  by_cases hk : .keyboard ∈ ready
  · simp only [if_pos hk]
    split <;> rfl
  · simp only [if_neg hk]
    split <;> rfl

/-- A read of the keyboard leaves everything but the outbound direction alone. -/
theorem run_readKeyboard (t : Terminal) :
    (onOutbound (Outbound.read readLimit)).run t =
      ⟨((Outbound.read readLimit).run t.outbound).outcome,
        { t with outbound := ((Outbound.read readLimit).run t.outbound).state },
        [.read .keyboard readLimit]⟩ := by
  rcases t with ⟨inbound, ⟨transmitter, _ | ⟨_ | held, later⟩, line⟩, keyboardOpen, watchSet⟩
  all_goals rfl

/-- A read of the line takes from what the line holds and leaves the viewer alone. -/
theorem run_readLine (t : Terminal) :
    (onInbound (Inbound.read readLimit)).run t =
      ⟨((Inbound.read readLimit).run t.inbound).outcome,
        { t with
          inbound := ⟨t.inbound.viewer, ((Inbound.read readLimit).run t.inbound).state.incoming⟩ },
        [.read .line readLimit]⟩ := by
  rcases t with ⟨⟨viewer, _ | ⟨_ | held, later⟩⟩, outbound, keyboardOpen, watchSet⟩ <;> rfl

private theorem emits_readChunk {p : Event → Bool} {source : Handle} {limit : Nat}
    (h : p (.read source limit)) : Emits p (readChunk source limit) :=
  (emits_emit h).bind fun _ => emits_of_silent fun script => by
    rcases script with _ | ⟨_ | held, later⟩ <;> rfl

/-- What comes of a chunk that was typed, or of the end of the keyboard. Nothing more is read. -/
theorem emits_typed (chunk : List UInt8) :
    Emits (fun e => e.isTyping && !e.isRead)
      (if chunk.isEmpty then endKeyboard else onOutbound (Outbound.send chunk)) := by
  have hunwatch : Emits (fun e => e.isTyping && !e.isRead) (WatchSet.unwatch .keyboard) := by
    refine Emits.bind (emits_of_silent fun _ => rfl) fun members => ?_
    split
    · exact (emits_emit rfl).bind fun _ => emits_of_silent fun _ => rfl
    · exact emits_of_silent fun _ => rfl
  split
  · refine Emits.bind (hunwatch.on _ _) fun _ => ?_
    exact Emits.bind (emits_of_silent fun _ => rfl) fun _ => emits_emit rfl
  · refine Emits.on (Emits.bind (emits_of_silent fun _ => rfl) fun transmitter => ?_) _ _
    have hsend := Transmitter.emits_of_madeOf (transmitter.madeOf_send chunk)
    exact (hsend.mono Event.isTyping_of_isSending).on _ _

/-- What comes of a keyboard that is ready. -/
theorem emits_serveKeyboard : Emits Event.isTyping serveKeyboard := by
  have hread : Emits Event.isTyping (readChunk .keyboard readLimit) := emits_readChunk rfl
  refine Emits.bind ((hread.on _ _).on _ _) fun chunk => (emits_typed chunk).mono fun e he => ?_
  exact (Bool.and_eq_true_iff.mp he).1

/-- What comes of a line that is ready. -/
theorem emits_serveLine : Emits Event.isInbound serveLine := by
  have hread : Emits Event.isInbound (readChunk .line readLimit) := emits_readChunk rfl
  refine Emits.bind ((hread.on _ _).on _ _) fun chunk => ?_
  have hfeed := Viewer.emits_of_madeOf (Viewer.madeOf_feed_flush chunk)
  exact (((hfeed.mono Event.isInbound_of_isDisplay).on _ _).mapFailure _).on _ _

/-- What comes of a round. -/
theorem emits_poll (wait : Wait) : Emits Event.isTalk (poll wait) := by
  cases wait with
  | ok ready =>
    change Emits Event.isTalk (serve ready)
    rw [serve_eq]
    refine Emits.bind ?_ fun _ => ?_
    · split
      · exact emits_serveKeyboard.mono Event.isTalk_of_isTyping
      · exact emits_of_silent fun _ => rfl
    · split
      · exact emits_serveLine.mono Event.isTalk_of_isInbound
      · exact emits_of_silent fun _ => rfl
  | error e =>
    rw [poll]
    split
    · exact emits_emit rfl
    · exact emits_of_silent fun _ => rfl

/-- What comes of all rounds. -/
theorem emits_pollAll (waits : List Wait) : Emits Event.isTalk (pollAll waits) := by
  induction waits with
  | nil => exact emits_of_silent fun _ => rfl
  | cons wait rest ih => exact (emits_poll wait).bind fun _ => ih

private theorem emits_watch (handle : Handle) : Emits Event.isTalk (WatchSet.watch handle) := by
  refine Emits.bind (((emits_next _ _).on _ _).mapFailure _) fun _ => ?_
  exact (emits_emit rfl).bind fun _ => emits_of_silent fun _ => rfl

/-- What comes of the requests to watch. -/
theorem emits_watchBoth : Emits Event.isTalk watchBoth :=
  ((emits_watch .keyboard).on _ _).bind fun _ => (emits_watch .line).on _ _

end Terminal

end SerialTerminal
