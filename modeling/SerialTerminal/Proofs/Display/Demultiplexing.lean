import SerialTerminal.Proofs.Display.Batches
import SerialTerminal.Proofs.Display.Showing
import SerialTerminal.Proofs.Slip.Reading

/-!
# Text and frames by turns

Where frames and the text between them come over one line, the delimiters alone decide which is
which: the segments of the stream are text and frame by turns. What looks like an escape inside a
text is text, and no text gets into a frame.

The view decides byte by byte, by the flag of its frame decoder. What makes its decisions agree with
the segments is `Lane.decoder`: all through a text the decoder is closed and its buffer empty, and
all through a frame it is not closed.
-/

namespace SerialTerminal.Viewer

open Slip
open FrameDecoder (defaultCapacity overflowNotice inSegment)

/-- What a segment of a stream is taken for. -/
inductive Lane where
  | text
  | frame
deriving DecidableEq, Repr

/-- The line on which a row of digits is shown. -/
def rowLine (row : List Char) : List UInt8 := Text.latin1 ('\r' :: row ++ ['\n'])

/-- What is shown of a payload, unless frames are hidden. -/
def frameLines (policy : FramePolicy) (payload : List UInt8) : List Event :=
  if policy = .hidden then []
  else (HexDump.rows frameLabel payload).map fun row => .shown (rowLine row)

/-- What the journal is told about a frame that overflows some times. -/
def overflowRecords (count : Nat) : List Event :=
  List.replicate count (.record .warning overflowNotice)

/-- What a reaction of the frame decoder leads to. -/
def answerTo (policy : FramePolicy) : Reaction → List Event
  | .silent => []
  | .overflow => overflowRecords 1
  | .payload bytes => frameLines policy bytes

/-- What a frame leads to that is ended: its payload is shown if it is neither empty nor too long
for the buffer. -/
def frameShown (policy : FramePolicy) (r : Reading) : List Event :=
  if 1 ≤ r.bytes.length ∧ r.bytes.length ≤ defaultCapacity then frameLines policy r.bytes else []

/-- What the segments of a stream lead to. Each byte of a text is shown. The escape that may be
pending passes from frame to frame and leaves the text between them alone. -/
def transcript (policy : FramePolicy) : Lane → Bool → List (List UInt8) → List Event
  | _, _, [] => []
  | .text, pending, text :: others =>
    text.map (fun b => .shown [b]) ++ transcript policy .frame pending others
  | .frame, pending, [frame] =>
    overflowRecords ((Reading.ofSegment pending frame).losses defaultCapacity)
  | .frame, pending, frame :: next :: others =>
    let r := Reading.ofSegment pending frame
    overflowRecords (r.losses defaultCapacity) ++ frameShown policy r ++
      transcript policy .text (r.carried defaultCapacity) (next :: others)

/-- The decoder inside a segment. -/
def Lane.decoder : Lane → Reading → FrameDecoder
  | .text, r => inSegment defaultCapacity .closed r
  | .frame, r => inSegment defaultCapacity .opened r

/-- The decoder after the segments of a stream. -/
def decoderAfter : Lane → Bool → List (List UInt8) → FrameDecoder
  | lane, pending, [] => lane.decoder ⟨[], pending⟩
  | .text, pending, [_] => Lane.text.decoder ⟨[], pending⟩
  | .text, pending, _ :: next :: others => decoderAfter .frame pending (next :: others)
  | .frame, pending, [frame] => Lane.frame.decoder (Reading.ofSegment pending frame)
  | .frame, pending, frame :: next :: others =>
    decoderAfter .text ((Reading.ofSegment pending frame).carried defaultCapacity)
      (next :: others)

variable {policy : FramePolicy} {v : Viewer} {pending : Bool} {r : Reading}

/-- The line of a row of a frame has one byte for each of its characters. -/
theorem isLatin1_rowLine {payload : List UInt8} {row : List Char}
    (h : row ∈ HexDump.rows frameLabel payload) :
    ∀ c ∈ '\r' :: row ++ ['\n'], Text.IsLatin1 c := by
  have hl : ∀ c ∈ frameLabel, Text.IsLatin1 c := Text.isLatin1_of_all (by decide)
  intro c hc
  rw [List.cons_append, List.mem_cons, List.mem_append, List.mem_singleton] at hc
  rcases hc with rfl | hc | rfl
  · decide
  · exact HexDump.isLatin1_rows hl payload row h c hc
  · decide

/-- The rows of a payload are shown in lines of their own. -/
theorem shows_writeFrame (h : v.output.Accepts) (payload : List UInt8) :
    Shows (writeFrame payload) v v.display.view
      ((HexDump.rows frameLabel payload).map fun row => .shown (rowLine row)) := by
  rw [List.map_eq_flatMap]
  refine shows_forEach h rfl _ ?_
  intro row hrow u hu hv
  rw [← hv]
  exact shows_writeText hu (isLatin1_rowLine hrow)

/-- A byte for the frame decoder takes it a step on and shows what its reaction leads to. -/
theorem shows_receiveFramed (h : v.output.Accepts) (policy : FramePolicy) (frames : FrameDecoder)
    (b : UInt8) :
    Shows (receiveFramed policy frames b) v (.slip policy (frames.feed b).1)
      (answerTo policy (frames.feed b).2) := by
  unfold receiveFramed
  rcases frames.feed b with ⟨next, reaction⟩
  refine (shows_setView v (.slip policy next)).bind ?_
  cases reaction with
  | silent => exact shows_done _
  | overflow => exact shows_log _ _ _
  | payload bytes =>
    show Shows _ _ _ (frameLines policy bytes)
    unfold frameLines
    by_cases hp : policy = .hidden
    · simp only [if_pos hp]
      exact shows_done _
    · simp only [if_neg hp]
      have hw : (v.after (.slip policy next) []).output.Accepts := h.after []
      exact shows_writeFrame hw bytes

/-- The decoder is closed all through a text. -/
theorem flag_decoder_text (pending : Bool) :
    (Lane.text.decoder ⟨[], pending⟩).flag = .closed := by
  rw [Lane.decoder, FrameDecoder.inSegment_empty]

/-- The decoder is not closed all through a frame. -/
theorem flag_decoder_frame (r : Reading) : (Lane.frame.decoder r).flag ≠ .closed := by
  rw [Lane.decoder, inSegment]
  intro h
  split at h
  · cases h
  · cases h

/-- A text is shown byte by byte, escapes and all. -/
theorem shows_text (hp : policy ≠ .exclusive) (h : v.output.Accepts)
    (hv : v.display.view = .slip policy (Lane.text.decoder ⟨[], pending⟩)) {text : List UInt8}
    (ht : frameEnd ∉ text) :
    Shows (Act.forEach receive text) v (.slip policy (Lane.text.decoder ⟨[], pending⟩))
      (text.map fun b => .shown [b]) := by
  rw [List.map_eq_flatMap]
  refine shows_forEach h hv _ ?_
  intro b hb u hu huv
  have hne : b ≠ frameEnd := fun he => ht (he ▸ hb)
  have hr : receiveIn (.slip policy (Lane.text.decoder ⟨[], pending⟩)) b = write [b] := by
    have ho : (Lane.text.decoder ⟨[], pending⟩).frameOpen = false :=
      decide_eq_false (not_not_intro (flag_decoder_text pending))
    rw [receiveIn, if_pos ⟨hp, by rw [ho]; rfl, hne⟩]
  apply Shows.receive
  rw [huv, hr, ← huv]
  exact shows_write hu [b]

/-- A byte that the view does not show as text goes to the frame decoder. -/
theorem shows_receive_framed (h : v.output.Accepts) {frames : FrameDecoder}
    (hv : v.display.view = .slip policy frames) {b : UInt8}
    (hb : frames.flag ≠ .closed ∨ b = frameEnd) :
    Shows (receive b) v (.slip policy (frames.feed b).1) (answerTo policy (frames.feed b).2) := by
  have hr : receiveIn (.slip policy frames) b = receiveFramed policy frames b := by
    rw [receiveIn, if_neg]
    rintro ⟨_, ho, hne⟩
    rcases hb with hb | hb
    · rw [FrameDecoder.frameOpen, decide_eq_true hb] at ho
      exact absurd ho (by decide)
    · exact hne hb
  apply Shows.receive
  rw [hv, hr]
  exact shows_receiveFramed h policy frames b

/-- The bytes of a frame go to the frame decoder. -/
theorem shows_frame (h : v.output.Accepts)
    (hv : v.display.view = .slip policy (Lane.frame.decoder r)) {frame : List UInt8}
    (hf : frameEnd ∉ frame) :
    Shows (Act.forEach receive frame) v (.slip policy (Lane.frame.decoder (r.extend frame)))
      ((r.reactions defaultCapacity frame).flatMap (answerTo policy)) := by
  induction frame generalizing v r with
  | nil =>
    rw [Reading.extend_nil, ← hv]
    exact shows_done v
  | cons b rest ih =>
    rw [List.mem_cons, not_or] at hf
    have hb : Shows (receive b) v _ _ := shows_receive_framed h hv (.inl (flag_decoder_frame r))
    rw [Lane.decoder, FrameDecoder.feed_inSegment b (Ne.symm hf.1)] at hb
    rw [Reading.extend_cons]
    exact hb.bind (ih (h.after _) rfl hf.2)

private theorem flatMap_answerTo {reactions : List Reaction}
    (h : ∀ x ∈ reactions, x = .silent ∨ x = .overflow) :
    reactions.flatMap (answerTo policy) = overflowRecords (reactions.count .overflow) := by
  induction reactions with
  | nil => rfl
  | cons x rest ih =>
    have hr := ih fun y hy => h y (List.mem_cons_of_mem x hy)
    rw [List.flatMap_cons, hr]
    rcases h x List.mem_cons_self with rfl | rfl
    · rw [List.count_cons_of_ne (by decide)]
      rfl
    · rw [List.count_cons_self]
      rfl

/-- A frame shows nothing before its end, but reports what it loses. -/
theorem shows_frame_ofSegment (h : v.output.Accepts)
    (hv : v.display.view = .slip policy (Lane.frame.decoder ⟨[], pending⟩)) {frame : List UInt8}
    (hf : frameEnd ∉ frame) :
    Shows (Act.forEach receive frame) v
      (.slip policy (Lane.frame.decoder (Reading.ofSegment pending frame)))
      (overflowRecords ((Reading.ofSegment pending frame).losses defaultCapacity)) := by
  have hs := shows_frame h hv hf
  rwa [Reading.extend_empty, flatMap_answerTo fun _ hx => Reading.eq_of_mem_reactions hx,
    Reading.count_reactions_empty] at hs

private theorem answerTo_delivery (policy : FramePolicy) (r : Reading) :
    answerTo policy (r.delivery defaultCapacity) = frameShown policy r := by
  have hq := r.losses_eq_zero_iff defaultCapacity
  rw [Reading.delivery, frameShown]
  by_cases h : 1 ≤ r.bytes.length ∧ r.bytes.length ≤ defaultCapacity
  · rw [if_pos h, if_pos ⟨hq.mpr h.2, h.1⟩]
    rfl
  · rw [if_neg h, if_neg fun hx => h ⟨hx.2, hq.mp hx.1⟩]
    rfl

/-- The delimiter behind a text opens a frame, and an escape stays pending. -/
theorem shows_end_text (h : v.output.Accepts)
    (hv : v.display.view = .slip policy (Lane.text.decoder ⟨[], pending⟩)) :
    Shows (receive frameEnd) v (.slip policy (Lane.frame.decoder ⟨[], pending⟩)) [] := by
  have hs := shows_receive_framed h hv (.inr rfl)
  have hf : FrameDecoder.flagAfter .closed ⟨[], pending⟩ = .opened := if_pos ⟨rfl, rfl⟩
  rwa [Lane.decoder, FrameDecoder.feed_frameEnd_inSegment (by decide), Reading.delivery_empty,
    Reading.carried_empty, hf] at hs

/-- A text with the delimiter behind it. -/
theorem shows_text_end (hp : policy ≠ .exclusive) (h : v.output.Accepts)
    (hv : v.display.view = .slip policy (Lane.text.decoder ⟨[], pending⟩)) {text : List UInt8}
    (ht : frameEnd ∉ text) :
    Shows (Act.forEach receive (text ++ [frameEnd])) v
      (.slip policy (Lane.frame.decoder ⟨[], pending⟩)) (text.map fun b => .shown [b]) := by
  have hb := shows_text hp h hv ht
  have hu : (v.after (.slip policy (Lane.text.decoder ⟨[], pending⟩))
      (text.map fun b => .shown [b])).output.Accepts := h.after _
  have he := (shows_end_text hu (view_after v _ _)).receive_singleton
  have hs := hb.receive_append he
  rwa [List.append_nil] at hs

/-- The delimiter behind a frame shows the payload and closes the frame. -/
theorem shows_end_frame (h : v.output.Accepts)
    (hv : v.display.view = .slip policy (Lane.frame.decoder r)) :
    Shows (receive frameEnd) v (.slip policy (Lane.text.decoder ⟨[], r.carried defaultCapacity⟩))
      (frameShown policy r) := by
  have hs := shows_receive_framed h hv (.inr rfl)
  have hf : FrameDecoder.flagAfter .opened r = .closed := if_neg fun h => by cases h.2
  rwa [Lane.decoder, FrameDecoder.feed_frameEnd_inSegment (by decide), hf, answerTo_delivery] at hs

/-- A frame with the delimiter behind it. -/
theorem shows_frame_end (h : v.output.Accepts)
    (hv : v.display.view = .slip policy (Lane.frame.decoder ⟨[], pending⟩)) {frame : List UInt8}
    (hf : frameEnd ∉ frame) :
    let r := Reading.ofSegment pending frame
    Shows (Act.forEach receive (frame ++ [frameEnd])) v
      (.slip policy (Lane.text.decoder ⟨[], r.carried defaultCapacity⟩))
      (overflowRecords (r.losses defaultCapacity) ++ frameShown policy r) := by
  intro r
  have hb := shows_frame_ofSegment h hv hf
  have hu : (v.after (.slip policy (Lane.frame.decoder r))
      (overflowRecords (r.losses defaultCapacity))).output.Accepts := h.after _
  have he := (shows_end_frame hu (view_after v _ _)).receive_singleton
  exact hb.receive_append he

/-- A stream leads to the transcript of its segments, from the start of a text or of a frame on. -/
theorem shows_transcript (hp : policy ≠ .exclusive) (stream : List UInt8) (lane : Lane)
    (pending : Bool) (h : v.output.Accepts)
    (hv : v.display.view = .slip policy (lane.decoder ⟨[], pending⟩)) :
    Shows (Act.forEach receive stream) v
      (.slip policy (decoderAfter lane pending (segments stream)))
      (transcript policy lane pending (segments stream)) := by
  -- Every delimiter changes the lane, and a frame may change the escape that is pending.
  induction stream using segment_induction generalizing lane pending v with
  | last segment hs =>
    rw [segments_of_not_mem hs]
    cases lane with
    | text =>
      rw [decoderAfter, transcript, transcript, List.append_nil]
      exact shows_text hp h hv hs
    | frame =>
      rw [decoderAfter, transcript]
      exact shows_frame_ofSegment h hv hs
  | ended segment rest hs ih =>
    obtain ⟨next, others, hn⟩ := exists_segments_eq_cons rest
    rw [segments_append hs, hn, List.append_cons]
    cases lane with
    | text =>
      rw [decoderAfter, transcript, ← hn]
      have hb := shows_text_end hp h hv hs
      exact hb.receive_append (ih .frame pending (h.after _) rfl)
    | frame =>
      rw [decoderAfter, transcript, ← hn]
      have hb := shows_frame_end h hv hs
      exact hb.receive_append (ih .text _ (h.after _) rfl)

/-- After a text and after a frame the parity of the delimiters tells whether a frame is open. -/
theorem flag_decoderAfter (stream : List UInt8) (pending : Bool) :
    ((decoderAfter .text pending (segments stream)).flag = .closed ↔
        stream.count frameEnd % 2 = 0) ∧
      ((decoderAfter .frame pending (segments stream)).flag = .closed ↔
        stream.count frameEnd % 2 = 1) := by
  induction stream using segment_induction generalizing pending with
  | last segment hs =>
    rw [segments_of_not_mem hs, List.count_eq_zero.mpr hs, decoderAfter, decoderAfter]
    constructor
    · simp [flag_decoder_text]
    · simp [flag_decoder_frame]
  | ended segment rest hs ih =>
    have hc : (segment ++ frameEnd :: rest).count frameEnd = rest.count frameEnd + 1 := by
      rw [List.count_append, List.count_eq_zero.mpr hs, List.count_cons_self, Nat.zero_add]
    obtain ⟨next, others, hn⟩ := exists_segments_eq_cons rest
    rw [segments_append hs, hn, hc, decoderAfter, decoderAfter, ← hn]
    constructor
    · rw [(ih pending).2]
      omega
    · rw [(ih _).1]
      omega

/-- Where text and frames share a line, a viewer takes them apart by the delimiters alone, however
the stream is cut into batches: what it shows and reports is the transcript of the segments, and it
is between frames after an even number of delimiters. -/
theorem demultiplexes {mode : DisplayMode} {policy : FramePolicy}
    (hm : mode = .slipAuto ∧ policy = .automatic ∨ mode = .slipHide ∧ policy = .hidden)
    {output : Output} (h : output.Accepts) (timeFormat : Option String) (startTime : Bool)
    (clock : Clock) (batches : List (List UInt8)) :
    let stream := batches.flatten
    let step := (Act.forEach feed batches).run (start mode timeFormat startTime clock output)
    step.outcome = .ok () ∧ step.events = transcript policy .text false (segments stream) ∧
      ∃ frames, step.state.display.view = .slip policy frames ∧
        frames = decoderAfter .text false (segments stream) ∧
        (frames.flag = .closed ↔ stream.count frameEnd % 2 = 0) := by
  intro stream step
  let v := start mode timeFormat startTime clock output
  have hp : policy ≠ .exclusive := by
    rcases hm with ⟨_, rfl⟩ | ⟨_, rfl⟩ <;> decide
  have hv : v.display.view = .slip policy (Lane.text.decoder ⟨[], false⟩) := by
    rw [Lane.decoder, ← FrameDecoder.initial_eq_inSegment]
    rcases hm with ⟨rfl, rfl⟩ | ⟨rfl, rfl⟩ <;> rfl
  have hr : v.Rowless := by
    rw [Rowless, hv]
    rfl
  have hs : step = ⟨.ok (), _, _⟩ :=
    (run_forEach_feed hr batches).trans (shows_transcript hp stream .text false h hv)
  rw [hs]
  exact ⟨rfl, rfl, _, rfl, rfl, (flag_decoderAfter stream false).1⟩

/-- An escape in a frame without payload skips the text behind it and changes the next frame. -/
theorem demultiplexes_escape_over_text :
    let batches :=
      [[frameEnd, escape], [frameEnd, escape, 65], [], [frameEnd, escapedEnd, frameEnd]]
    let v := start .slipAuto none false (.ofReadings []) .willing
    let shown : List Event := [.shown [escape], .shown [65]] ++ frameLines .automatic [frameEnd]
    Output.willing.Accepts ∧ ((Act.forEach feed batches).run v).events = shown := by
  intro batches v shown
  have hw := Output.accepts_willing
  have hd := demultiplexes (.inl ⟨rfl, rfl⟩) hw none false (.ofReadings []) batches
  exact ⟨hw, hd.2.1.trans (List.append_nil shown)⟩

end SerialTerminal.Viewer
