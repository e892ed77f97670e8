import Mathlib.Algebra.Ring.Nat
import SerialTerminal.Proofs.Slip.Reading

/-!
# Streams of frames

A sender writes payloads one after another, each stuffed and with delimiters behind it. A decoder
that has nothing buffered and no escape pending is at rest, and it is at rest again after every
frame, whether the payload fitted into its buffer or not. So no frame harms a later one.
-/

namespace SerialTerminal.Slip

/-- A payload as it is sent, with one delimiter behind it and perhaps more. -/
structure SentFrame where
  payload : List UInt8
  moreEnds : Nat
deriving DecidableEq, Repr

/-- The bytes of a frame on the line. -/
def SentFrame.bytes (frame : SentFrame) : List UInt8 :=
  stuff frame.payload ++ List.replicate (frame.moreEnds + 1) frameEnd

/-- Some delimiters, and frames behind them. -/
def frameStream (leadingEnds : Nat) (frames : List SentFrame) : List UInt8 :=
  List.replicate leadingEnds frameEnd ++ frames.flatMap SentFrame.bytes

/-- The payload that a reaction hands over. -/
def Reaction.payload? : Reaction → Option (List UInt8)
  | .payload bytes => some bytes
  | _ => none

/-- The payloads that reactions hand over. -/
def payloads (reactions : List Reaction) : List (List UInt8) :=
  reactions.filterMap Reaction.payload?

/-- Payloads come in the order of the reactions. -/
theorem payloads_append (xs ys : List Reaction) :
    payloads (xs ++ ys) = payloads xs ++ payloads ys :=
  List.filterMap_append

/-- The payload of the first reaction comes first. -/
theorem payloads_cons (x : Reaction) (others : List Reaction) :
    payloads (x :: others) = x.payload?.toList ++ payloads others := by
  cases x <;> rfl

/-- Silence hands nothing over. -/
theorem payloads_replicate_silent (n : Nat) : payloads (List.replicate n .silent) = [] := by
  apply List.filterMap_eq_nil_iff.mpr
  intro x hx
  rw [List.eq_of_mem_replicate hx]
  rfl

namespace FrameDecoder

/-- Holds of a decoder with an empty buffer, no pending escape and nothing lost. -/
def AtRest (capacity : Nat) (d : FrameDecoder) : Prop :=
  ∃ flag, flag ≠ .overflowed ∧ d = inSegment capacity flag ⟨[], false⟩

/-- Bytes that a decoder at rest turns into payloads and overflows, to be at rest again. -/
structure Delivers (capacity : Nat) (bytes : List UInt8) (frames : List (List UInt8))
    (overflows : Nat) (d : FrameDecoder) : Prop where
  rest : AtRest capacity (d.feedAll bytes).1
  frames : payloads (d.feedAll bytes).2 = frames
  overflows : (d.feedAll bytes).2.count .overflow = overflows

variable {capacity : Nat} {d : FrameDecoder}

/-- A fresh decoder is at rest. -/
theorem atRest_initial (capacity : Nat) : AtRest capacity (initial capacity) :=
  ⟨.closed, by decide, initial_eq_inSegment capacity⟩

/-- A decoder at rest stays so without bytes. -/
theorem delivers_nil (h : AtRest capacity d) : Delivers capacity [] [] 0 d := ⟨h, rfl, rfl⟩

/-- What is delivered for bytes that follow each other follows each other. -/
theorem Delivers.append {xs ys : List UInt8} {ps qs : List (List UInt8)} {m n : Nat}
    (hx : Delivers capacity xs ps m d) (hy : Delivers capacity ys qs n (d.feedAll xs).1) :
    Delivers capacity (xs ++ ys) (ps ++ qs) (m + n) d where
  rest := by
    rw [feedAll_append]
    exact hy.rest
  frames := by
    rw [feedAll_append, payloads, List.filterMap_append, ← payloads, ← payloads, hx.frames,
      hy.frames]
  overflows := by rw [feedAll_append, List.count_append, hx.overflows, hy.overflows]

/-- A delimiter between frames delivers nothing. -/
theorem delivers_end (h : AtRest capacity d) : Delivers capacity [frameEnd] [] 0 d := by
  obtain ⟨flag, hf, rfl⟩ := h
  have hr : (inSegment capacity flag ⟨[], false⟩).feedAll [frameEnd] =
      (inSegment capacity (flagAfter flag ⟨[], false⟩) ⟨[], false⟩, [.silent]) := by
    rw [feedAll_cons, feed_frameEnd_inSegment hf, Reading.delivery_empty, Reading.carried_empty,
      feedAll_nil]
  constructor
  · rw [hr]
    exact ⟨_, flagAfter_ne_overflowed flag _, rfl⟩
  · rw [hr]
    rfl
  · rw [hr]
    rfl

/-- Delimiters between frames deliver nothing. -/
theorem delivers_ends (h : AtRest capacity d) (n : Nat) :
    Delivers capacity (List.replicate n frameEnd) [] 0 d := by
  induction n generalizing d with
  | zero => exact delivers_nil h
  | succ n ih => exact (delivers_end h).append (ih (delivers_end h).rest)

private theorem payloads_reactions (r : Reading) (more : List UInt8) :
    payloads (r.reactions capacity more) = [] := by
  apply List.filterMap_eq_nil_iff.mpr
  intro x hx
  rcases Reading.eq_of_mem_reactions hx with rfl | rfl
  · rfl
  · rfl

private theorem payloads_delivery (payload : List UInt8) :
    payloads [Reading.delivery capacity ⟨payload, false⟩] =
      [payload].filter fun p => 1 ≤ p.length ∧ p.length ≤ capacity := by
  have hq := Reading.losses_eq_zero_iff capacity ⟨payload, false⟩
  by_cases h : 1 ≤ payload.length ∧ payload.length ≤ capacity
  · rw [Reading.delivery, if_pos ⟨hq.mpr h.2, h.1⟩, List.filter_cons_of_pos (by simpa using h)]
    rfl
  · rw [Reading.delivery, if_neg fun hx => h ⟨hx.2, hq.mp hx.1⟩,
      List.filter_cons_of_neg (by simpa using h)]
    rfl

private theorem count_delivery (r : Reading) : [r.delivery capacity].count .overflow = 0 := by
  rw [List.count_eq_zero, List.mem_singleton]
  exact (r.delivery_ne_overflow capacity).symm

/-- A frame delivers its payload, unless it is empty or too long for the buffer. -/
theorem delivers_frame (h : AtRest capacity d) (payload : List UInt8) :
    Delivers capacity (stuff payload ++ [frameEnd])
      ([payload].filter fun p => 1 ≤ p.length ∧ p.length ≤ capacity)
      (payload.length / (capacity + 1)) d := by
  obtain ⟨flag, hf, rfl⟩ := h
  have ho : Reading.ofSegment false (stuff payload) = ⟨payload, false⟩ := by
    rw [Reading.ofSegment, unstuff_stuff]
  have hr : (inSegment capacity flag ⟨[], false⟩).feedAll (stuff payload ++ [frameEnd]) =
      (inSegment capacity (flagAfter flag ⟨payload, false⟩) ⟨[], false⟩,
        Reading.reactions capacity ⟨[], false⟩ (stuff payload) ++
          [Reading.delivery capacity ⟨payload, false⟩]) := by
    have hc : Reading.carried capacity ⟨payload, false⟩ = false := ite_self false
    rw [feedAll_append, feedAll_inSegment (frameEnd_not_mem_stuff payload), Reading.extend_empty,
      ho, feedAll_cons, feed_frameEnd_inSegment hf, hc, feedAll_nil]
  constructor
  · rw [hr]
    exact ⟨_, flagAfter_ne_overflowed flag _, rfl⟩
  · rw [hr, payloads, List.filterMap_append, ← payloads, ← payloads, payloads_reactions,
      payloads_delivery, List.nil_append]
  · rw [hr, List.count_append, count_delivery, Reading.count_reactions_empty, ho, Nat.add_zero]
    rfl

/-- A frame with more delimiters behind it delivers no more than the frame. -/
theorem delivers_sentFrame (h : AtRest capacity d) (frame : SentFrame) :
    Delivers capacity frame.bytes
      ([frame.payload].filter fun p => 1 ≤ p.length ∧ p.length ≤ capacity)
      (frame.payload.length / (capacity + 1)) d := by
  have hb : frame.bytes =
      stuff frame.payload ++ [frameEnd] ++ List.replicate frame.moreEnds frameEnd := by
    rw [SentFrame.bytes, List.replicate_succ, List.append_assoc, List.singleton_append]
  have hd := delivers_frame h frame.payload
  have hm := hd.append (delivers_ends hd.rest frame.moreEnds)
  rwa [List.append_nil, Nat.add_zero, ← hb] at hm

/-- Frames deliver what each of them delivers. -/
theorem delivers_sentFrames (h : AtRest capacity d) (frames : List SentFrame) :
    Delivers capacity (frames.flatMap SentFrame.bytes)
      ((frames.map SentFrame.payload).filter fun p => 1 ≤ p.length ∧ p.length ≤ capacity)
      (frames.map fun frame => frame.payload.length / (capacity + 1)).sum d := by
  induction frames generalizing d with
  | nil => exact delivers_nil h
  | cons frame rest ih =>
    have hd := delivers_sentFrame h frame
    have hm := hd.append (ih hd.rest)
    rw [← List.filter_append] at hm
    exact hm

/-- A byte never completes a frame without payload. -/
theorem ne_nil_of_feed_eq_payload {b : UInt8} {payload : List UInt8}
    (h : (d.feed b).2 = .payload payload) : payload ≠ [] := by
  rw [feed] at h
  split at h
  · cases h
  · split at h
    · rw [onEnd] at h
      split at h
      · cases h
      · next hempty =>
        split at h
        · cases h
        · obtain rfl := Reaction.payload.inj h
          intro hnil
          have hsize := d.buffer.length_toList
          rw [hnil] at hsize
          exact hempty (decide_eq_true hsize.symm)
    · rw [onData] at h
      split at h <;> cases h

/-- No stream does. -/
theorem ne_nil_of_mem_payloads {stream payload : List UInt8}
    (h : payload ∈ payloads (d.feedAll stream).2) : payload ≠ [] := by
  induction stream generalizing d with
  | nil => exact absurd h List.not_mem_nil
  | cons b rest ih =>
    rw [feedAll_cons, payloads_cons, List.mem_append] at h
    rcases h with h | h
    · cases hb : (d.feed b).2 with
      | silent | overflow =>
        rw [hb] at h
        exact absurd h List.not_mem_nil
      | payload bytes =>
        rw [hb] at h
        obtain rfl : payload = bytes := List.mem_singleton.mp h
        exact ne_nil_of_feed_eq_payload hb
    · exact ih h

/-- A fresh decoder gives the payloads of a stream of frames back: all those that are not empty and
fit into its buffer, in their order. It reports the overflows of the others and is at rest in the
end. -/
theorem feedAll_frameStream (capacity leadingEnds : Nat) (frames : List SentFrame) :
    let run := (initial capacity).feedAll (frameStream leadingEnds frames)
    payloads run.2 =
        (frames.map SentFrame.payload).filter (fun p => 1 ≤ p.length ∧ p.length ≤ capacity) ∧
      run.2.count .overflow =
        (frames.map fun frame => frame.payload.length / (capacity + 1)).sum ∧
      run.1.buffer.toList = [] ∧ run.1.pendingEscape = false ∧ run.1.flag ≠ .overflowed := by
  intro run
  have hl := delivers_ends (atRest_initial capacity) leadingEnds
  have hd := hl.append (delivers_sentFrames hl.rest frames)
  rw [List.nil_append, Nat.zero_add] at hd
  obtain ⟨flag, hf, hr⟩ : AtRest capacity run.1 := hd.rest
  refine ⟨hd.frames, hd.overflows, ?_⟩
  rw [hr, inSegment_empty]
  exact ⟨rfl, rfl, hf⟩

end FrameDecoder

end SerialTerminal.Slip
