import SerialTerminal.Proofs.Sending
import SerialTerminal.Proofs.Slip.FrameStream
import SerialTerminal.Proofs.Slip.Resynchronisation

/-!
# Loopback

A transmitter puts each chunk between delimiters and sends its bytes as they are. A frame decoder at
the other end of the line gets the chunks back just if all their bytes are plain, which is to say
neither delimiters nor escapes (`looped_back_iff`).

That a byte which is not plain does harm is a matter of counting. Each byte that a decoder ever
hands over is owed to a plain byte of the stream, one for one (`size_feedAll_le`), and the frames
around the chunks add none.
-/

namespace SerialTerminal.Slip

/-- Holds of the bytes that stand for themselves inside a frame. -/
def isPlain (b : UInt8) : Bool := b ≠ frameEnd ∧ b ≠ escape

/-- Number of payload bytes that a reaction hands over. -/
def Reaction.size : Reaction → Nat
  | .payload bytes => bytes.length
  | _ => 0

/-- A chunk between two delimiters. -/
def framed (chunk : List UInt8) : List UInt8 := frameEnd :: chunk ++ [frameEnd]

/-- Plain bytes need no stuffing. -/
theorem stuff_of_plain {chunk : List UInt8} (h : ∀ b ∈ chunk, isPlain b) : stuff chunk = chunk := by
  induction chunk with
  | nil => rfl
  | cons b rest ih =>
    have hb : b ≠ frameEnd ∧ b ≠ escape := by simpa [isPlain] using h b List.mem_cons_self
    rw [stuff_cons, ih fun x hx => h x (List.mem_cons_of_mem b hx), stuffByte, if_neg hb.1,
      if_neg hb.2, List.singleton_append]

/-- Bytes are plain just if there is neither a delimiter nor an escape among them. -/
theorem all_plain_iff {chunk : List UInt8} :
    (∀ b ∈ chunk, isPlain b) ↔ frameEnd ∉ chunk ∧ escape ∉ chunk := by
  constructor
  · intro h
    exact ⟨fun he => absurd (h _ he) (by decide), fun he => absurd (h _ he) (by decide)⟩
  · rintro ⟨he, hs⟩ b hb
    have hne : b ≠ frameEnd := fun h => he (h ▸ hb)
    have hns : b ≠ escape := fun h => hs (h ▸ hb)
    simp [isPlain, hne, hns]

/-- Delimiters around chunks are no plain bytes. -/
theorem countP_framed (chunks : List (List UInt8)) :
    (chunks.flatMap framed).countP isPlain = chunks.flatten.countP isPlain := by
  have hend : isPlain frameEnd = false := by decide
  induction chunks with
  | nil => rfl
  | cons chunk rest ih =>
    rw [List.flatMap_cons, List.flatten_cons, List.countP_append, List.countP_append, ih]
    simp [framed, List.countP_append, hend]

namespace FrameDecoder

variable {capacity : Nat}

/-- A byte that is not plain adds nothing to what is buffered and handed over, a plain one adds at
most one byte. -/
theorem size_feed_le (d : FrameDecoder) (b : UInt8) :
    (d.feed b).2.size + (d.feed b).1.buffer.size ≤ d.buffer.size + [b].countP isPlain := by
  rw [List.countP_singleton]
  by_cases hs : b = escape
  · subst hs
    simp [feed, Reaction.size]
  · by_cases he : b = frameEnd
    · subst he
      rw [feed, if_neg hs, if_pos rfl, onEnd]
      by_cases hb : d.buffer.isEmpty
      · simp [hb, Reaction.size]
      · by_cases hf : d.flag = .overflowed
        · simp [hb, hf, Reaction.size, ReceptionBuffer.size, ReceptionBuffer.clear]
        · simp [hb, hf, Reaction.size, ReceptionBuffer.length_toList, ReceptionBuffer.clear,
            ReceptionBuffer.size]
    · have hp : isPlain b := by simp [isPlain, he, hs]
      rw [feed, if_neg hs, if_neg he, onData, if_pos hp]
      split
      · simp [onOverflow, Reaction.size, ReceptionBuffer.size, ReceptionBuffer.clear]
      · simp [Reaction.size, ReceptionBuffer.size, ReceptionBuffer.push]

/-- The payload bytes that are handed over and those that are still buffered are no more than the
plain bytes of the stream and those that were buffered before. -/
theorem size_feedAll_le (d : FrameDecoder) (stream : List UInt8) :
    (payloads (d.feedAll stream).2).flatten.length + (d.feedAll stream).1.buffer.size ≤
      d.buffer.size + stream.countP isPlain := by
  induction stream generalizing d with
  | nil => simp [payloads]
  | cons b rest ih =>
    have hb := size_feed_le d b
    have hrest := ih (d.feed b).1
    have hfirst (x : Reaction) : x.payload?.toList.flatten.length = x.size := by
      cases x <;> simp [Reaction.payload?, Reaction.size]
    have hplain : ([b] ++ rest).countP isPlain = [b].countP isPlain + rest.countP isPlain :=
      List.countP_append
    rw [List.singleton_append] at hplain
    rw [feedAll_cons, payloads_cons, List.flatten_append, List.length_append, hfirst, hplain]
    simp only
    omega

/-- A fresh decoder hands a plain chunk between delimiters over and is fresh again. -/
theorem feedAll_framed_of_plain {chunk : List UInt8} (h : ∀ b ∈ chunk, isPlain b)
    (hl : 1 ≤ chunk.length) (hle : chunk.length ≤ capacity) :
    (initial capacity).feedAll (framed chunk) =
      (initial capacity,
        .silent :: (List.replicate chunk.length .silent ++ [.payload chunk])) := by
  have hread : Reading.ofSegment false chunk = ⟨chunk, false⟩ := by
    have hu := unstuff_stuff chunk
    rw [stuff_of_plain h] at hu
    rw [Reading.ofSegment, hu]
  have hopen : (initial capacity).feed frameEnd =
      (inSegment capacity .opened ⟨[], false⟩, .silent) := by
    have hf : flagAfter .closed ⟨[], false⟩ = .opened := if_pos ⟨rfl, rfl⟩
    rw [initial_eq_inSegment, feed_frameEnd_inSegment (by decide), Reading.delivery_empty,
      Reading.carried_empty, hf]
  have hne : FrameFlag.opened ≠ .overflowed := by decide
  have hchunk := feedAll_segment_of_fits hne (all_plain_iff.mp h).1 hread hl hle
  rw [framed, List.cons_append, feedAll_cons, hopen, hchunk]

/-- It hands plain chunks over one after another, without an overflow. -/
theorem feedAll_framed_all_plain {chunks : List (List UInt8)}
    (h : ∀ chunk ∈ chunks, ∀ b ∈ chunk, isPlain b)
    (hl : ∀ chunk ∈ chunks, 1 ≤ chunk.length ∧ chunk.length ≤ capacity) :
    let run := (initial capacity).feedAll (chunks.flatMap framed)
    payloads run.2 = chunks ∧ run.1 = initial capacity ∧ run.2.count .overflow = 0 := by
  induction chunks with
  | nil => exact ⟨rfl, rfl, rfl⟩
  | cons chunk rest ih =>
    have hc := hl chunk List.mem_cons_self
    have hchunk := feedAll_framed_of_plain (h chunk List.mem_cons_self) hc.1 hc.2
    obtain ⟨hp, hd, ho⟩ := ih (fun c hm => h c (List.mem_cons_of_mem chunk hm))
      fun c hm => hl c (List.mem_cons_of_mem chunk hm)
    rw [List.flatMap_cons, feedAll_append, hchunk]
    refine ⟨?_, hd, ?_⟩
    · simp only [payloads_append, payloads_cons, payloads_replicate_silent, hp]
      rfl
    · simp only [List.count_append, List.count_cons, ho, List.count_replicate]
      simp

end FrameDecoder

end SerialTerminal.Slip

namespace SerialTerminal.Transmitter

open Act Slip
open FrameDecoder (defaultCapacity initial)

/-- Chunks that a transmitter sends in frames come back from a frame decoder just if there is
neither a delimiter nor an escape in them, and then they leave it fresh and nothing overflows. -/
theorem looped_back_iff {delayUs : Int} {t : Transmitter} {line : LineOutput}
    {chunks : List (List UInt8)} (ht : create .slip delayUs = .ok t) (hline : line.Accepts)
    (hchunks : ∀ chunk ∈ chunks, 1 ≤ chunk.length ∧ chunk.length ≤ defaultCapacity) :
    let step := (forEach t.send chunks).run line
    let run := (initial defaultCapacity).feedAll (step.events.flatMap Event.sentBytes)
    let plain := ∀ chunk ∈ chunks, frameEnd ∉ chunk ∧ escape ∉ chunk
    step.outcome = .ok () ∧ (payloads run.2 = chunks ↔ plain) ∧
      (plain → run.1 = initial defaultCapacity ∧ run.2.count .overflow = 0) := by
  intro step run plain
  have hcreated : t.framed = true ∧ ¬ t.tooLong := by
    rw [create] at ht
    split at ht
    · cases ht
    · split at ht
      · cases ht
      · rw [← Except.ok.inj ht]
        exact ⟨rfl, Bool.false_ne_true⟩
  obtain ⟨hframed, hpause⟩ := hcreated
  obtain ⟨line', hs⟩ := exists_ends_sendAll hpause hline chunks
  have hsent : step.events.flatMap Event.sentBytes = chunks.flatMap Slip.framed := by
    have he : step.events = chunks.flatMap t.trace := congrArg Step.events hs
    have hw (chunk : List UInt8) : t.wireBytes chunk = Slip.framed chunk := if_pos hframed
    rw [he, List.flatMap_assoc]
    simp only [t.sentBytes_trace, hw]
  have hplain (h : plain) : payloads run.2 = chunks ∧ run.1 = initial defaultCapacity ∧
      run.2.count .overflow = 0 := by
    have ha := FrameDecoder.feedAll_framed_all_plain
      (fun chunk hc => all_plain_iff.mpr (h chunk hc)) hchunks
    rwa [← hsent] at ha
  refine ⟨congrArg Step.outcome hs, ⟨fun hback => ?_, fun h => (hplain h).1⟩,
    fun h => (hplain h).2⟩
  -- As many plain bytes as come back were sent, so all that were sent are plain.
  have hle : chunks.flatten.length ≤ chunks.flatten.countP isPlain := by
    have hsize := FrameDecoder.size_feedAll_le (initial defaultCapacity)
      (step.events.flatMap Event.sentBytes)
    have hempty : (initial defaultCapacity).buffer.size = 0 := rfl
    rw [hempty, hsent, countP_framed, ← hsent] at hsize
    rw [hback] at hsize
    omega
  have hall := List.countP_eq_length.mp (Nat.le_antisymm List.countP_le_length hle)
  intro chunk hc
  exact all_plain_iff.mp fun b hb => hall b (List.mem_flatten.mpr ⟨chunk, hc, hb⟩)

/-- An escape at the end of a chunk outlives the delimiter behind it, so that two chunks come back
as something else. -/
theorem looped_back_iff_escape :
    let chunks : List (List UInt8) := [[escape], [escapedEnd, 65]]
    let line : LineOutput := ⟨[.ok (.count 1)], [.ok ()]⟩
    ∃ t, create .slip 6000 = .ok t ∧ line.Accepts ∧
      (∀ chunk ∈ chunks, 1 ≤ chunk.length ∧ chunk.length ≤ defaultCapacity) ∧
      payloads ((initial defaultCapacity).feedAll
        (((forEach t.send chunks).run line).events.flatMap Event.sentBytes)).2 ≠ chunks := by
  intro chunks line
  have hline : line.Accepts := by
    constructor
    · intro reply hr
      rw [List.mem_singleton.mp hr]
      rfl
    · intro reply hr
      exact List.mem_singleton.mp hr
  have hchunks : ∀ chunk ∈ chunks, 1 ≤ chunk.length ∧ chunk.length ≤ defaultCapacity := by
    decide
  obtain ⟨t, ht⟩ : ∃ t, create .slip 6000 = .ok t := ⟨_, rfl⟩
  refine ⟨t, ht, hline, hchunks, fun hback => ?_⟩
  have hplain := (looped_back_iff ht hline hchunks).2.1.mp hback
  exact absurd (hplain [escape] List.mem_cons_self).2 (by decide)

end SerialTerminal.Transmitter
