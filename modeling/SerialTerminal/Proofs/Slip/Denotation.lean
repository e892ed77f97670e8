import SerialTerminal.Proofs.Slip.Reading

/-!
# Denotation of a stream

What a decoder does about a stream follows from the readings of its segments, whatever the stream
holds. Every segment reports its overflows, every delimiter reacts as the segment before it says,
and the segment that is not ended yet determines the decoder.
-/

namespace SerialTerminal.Slip

/-- The readings of consecutive segments. An escape that outlives a segment is pending before the
next one. -/
def readings (capacity : Nat) : Bool → List (List UInt8) → List Reading
  | _, [] => []
  | pending, segment :: others =>
    let r := Reading.ofSegment pending segment
    r :: readings capacity (r.carried capacity) others

/-- The reading of the first segment decides with which escape the next one is entered. -/
theorem readings_cons (capacity : Nat) (pending : Bool) (segment : List UInt8)
    (others : List (List UInt8)) :
    readings capacity pending (segment :: others) =
      Reading.ofSegment pending segment ::
        readings capacity ((Reading.ofSegment pending segment).carried capacity) others := rfl

namespace FrameDecoder

/-- The bytes of a stream, each with the reaction to it. -/
def answered (d : FrameDecoder) (stream : List UInt8) : List (UInt8 × Reaction) :=
  stream.zip (d.feedAll stream).2

/-- Holds of a delimiter with the reaction to it. -/
def isEnd (answer : UInt8 × Reaction) : Bool := answer.1 = frameEnd

/-- The number of overflows among answers. -/
def overflowCount (answers : List (UInt8 × Reaction)) : Nat :=
  (answers.map Prod.snd).count .overflow

/-- There is a reaction to every byte. -/
@[simp] theorem length_feedAll (d : FrameDecoder) (stream : List UInt8) :
    (d.feedAll stream).2.length = stream.length := by
  induction stream generalizing d with
  | nil => rfl
  | cons b rest ih => simp [ih]

/-- The answered bytes are those of the stream. -/
theorem map_fst_answered (d : FrameDecoder) (stream : List UInt8) :
    (d.answered stream).map Prod.fst = stream :=
  List.map_fst_zip (Nat.le_of_eq (length_feedAll d stream).symm)

/-- The answers are the reactions to the stream. -/
theorem map_snd_answered (d : FrameDecoder) (stream : List UInt8) :
    (d.answered stream).map Prod.snd = (d.feedAll stream).2 :=
  List.map_snd_zip (Nat.le_of_eq (length_feedAll d stream))

/-- A stream may be cut anywhere. -/
theorem answered_append (d : FrameDecoder) (xs ys : List UInt8) :
    d.answered (xs ++ ys) = d.answered xs ++ (d.feedAll xs).1.answered ys := by
  rw [answered, feedAll_append, List.zip_append (by rw [length_feedAll])]
  rfl

@[simp] theorem answered_cons (d : FrameDecoder) (b : UInt8) (rest : List UInt8) :
    d.answered (b :: rest) = (b, (d.feed b).2) :: (d.feed b).1.answered rest := rfl

/-- No answer inside a segment belongs to a delimiter. -/
theorem isEnd_of_mem_answered {d : FrameDecoder} {segment : List UInt8} (h : frameEnd ∉ segment)
    {answer : UInt8 × Reaction} (hm : answer ∈ d.answered segment) : isEnd answer = false := by
  have hb : answer.1 ∈ segment := by
    rw [← map_fst_answered d segment]
    exact List.mem_map_of_mem hm
  exact decide_eq_false fun he => h (he ▸ hb)

/-- Only a delimiter completes a frame. -/
theorem eq_frameEnd_of_payload {d : FrameDecoder} {b : UInt8} {bytes : List UInt8}
    (h : (d.feed b).2 = .payload bytes) : b = frameEnd := by
  unfold feed at h
  split at h
  · cases h
  · split at h
    · next hb => exact hb
    · unfold onData at h
      split at h <;> cases h

/-- A payload is the reaction to a delimiter. -/
theorem eq_frameEnd_of_mem_answered {d : FrameDecoder} {stream : List UInt8} {b : UInt8}
    {bytes : List UInt8} (h : (b, .payload bytes) ∈ d.answered stream) : b = frameEnd := by
  induction stream generalizing d with
  | nil => exact absurd h List.not_mem_nil
  | cons x rest ih =>
    rw [answered_cons, List.mem_cons] at h
    rcases h with h | h
    · obtain ⟨rfl, hr⟩ := Prod.mk.inj h
      exact eq_frameEnd_of_payload hr.symm
    · exact ih h

/-- A decoder answers a stream as the readings of its segments say: those that are ended, and the
one that is not. -/
structure Denoted (capacity : Nat) (d : FrameDecoder) (stream : List UInt8)
    (ended : List Reading) (unfinished : Reading) : Prop where
  parts : ((d.answered stream).splitOnP isEnd).map (List.map Prod.fst) = segments stream
  losses : ((d.answered stream).splitOnP isEnd).map overflowCount =
    (ended ++ [unfinished]).map (Reading.losses capacity)
  deliveries : ((d.answered stream).filter isEnd).map Prod.snd =
    ended.map (Reading.delivery capacity)
  decoder : ∃ flag, flag ≠ .overflowed ∧ (d.feedAll stream).1 = inSegment capacity flag unfinished

variable {capacity : Nat} {entered : FrameFlag} {pending : Bool}

private theorem overflowCount_inSegment {segment : List UInt8} (h : frameEnd ∉ segment) :
    overflowCount ((inSegment capacity entered ⟨[], pending⟩).answered segment) =
      (Reading.ofSegment pending segment).losses capacity := by
  rw [overflowCount, map_snd_answered, feedAll_inSegment h, Reading.count_reactions_empty]

/-- A segment that is not ended. -/
theorem denoted_last (h : entered ≠ .overflowed) {segment : List UInt8}
    (hs : frameEnd ∉ segment) :
    Denoted capacity (inSegment capacity entered ⟨[], pending⟩) segment []
      (Reading.ofSegment pending segment) where
  parts := by
    rw [List.splitOnP_eq_singleton fun _ hm => isEnd_of_mem_answered hs hm, List.map_singleton,
      map_fst_answered, segments_of_not_mem hs]
  losses := by
    rw [List.splitOnP_eq_singleton fun _ hm => isEnd_of_mem_answered hs hm, List.map_singleton,
      overflowCount_inSegment hs]
    rfl
  deliveries := by
    rw [List.filter_eq_nil_iff.mpr fun _ hm => by simp [isEnd_of_mem_answered hs hm]]
    rfl
  decoder := ⟨entered, h, by rw [feedAll_inSegment hs, Reading.extend_empty]⟩

private theorem answered_ended (h : entered ≠ .overflowed) {segment : List UInt8}
    (hs : frameEnd ∉ segment) (rest : List UInt8) :
    (inSegment capacity entered ⟨[], pending⟩).answered (segment ++ frameEnd :: rest) =
      (inSegment capacity entered ⟨[], pending⟩).answered segment ++
        (frameEnd, (Reading.ofSegment pending segment).delivery capacity) ::
          (inSegment capacity (flagAfter entered (Reading.ofSegment pending segment))
            ⟨[], (Reading.ofSegment pending segment).carried capacity⟩).answered rest := by
  rw [answered_append, feedAll_inSegment hs, Reading.extend_empty, answered_cons,
    feed_frameEnd_inSegment h]

/-- A segment, a delimiter and what follows. -/
theorem denoted_ended (h : entered ≠ .overflowed) {segment rest : List UInt8}
    (hs : frameEnd ∉ segment) {ended : List Reading} {unfinished : Reading}
    (hd : Denoted capacity
      (inSegment capacity (flagAfter entered (Reading.ofSegment pending segment))
        ⟨[], (Reading.ofSegment pending segment).carried capacity⟩) rest ended unfinished) :
    Denoted capacity (inSegment capacity entered ⟨[], pending⟩) (segment ++ frameEnd :: rest)
      (Reading.ofSegment pending segment :: ended) unfinished where
  parts := by
    rw [answered_ended h hs, List.splitOnP_append_cons_of_forall_mem
      (fun _ hm => isEnd_of_mem_answered hs hm) _ rfl, List.map_cons, hd.parts,
      map_fst_answered, segments_append hs]
  losses := by
    rw [answered_ended h hs, List.splitOnP_append_cons_of_forall_mem
      (fun _ hm => isEnd_of_mem_answered hs hm) _ rfl, List.map_cons, hd.losses,
      overflowCount_inSegment hs]
    rfl
  deliveries := by
    have hn : ((inSegment capacity entered ⟨[], pending⟩).answered segment).filter isEnd = [] :=
      List.filter_eq_nil_iff.mpr fun _ hm => by simp [isEnd_of_mem_answered hs hm]
    rw [answered_ended h hs, List.filter_append, hn, List.nil_append, List.filter_cons_of_pos rfl,
      List.map_cons, hd.deliveries]
    rfl
  decoder := by
    rw [feedAll_append, feedAll_inSegment hs, Reading.extend_empty, feedAll_cons,
      feed_frameEnd_inSegment h]
    exact hd.decoder

/-- A decoder at the start of a segment answers every stream as the readings of its segments say. -/
theorem exists_denoted (capacity : Nat) (pending : Bool) (h : entered ≠ .overflowed)
    (stream : List UInt8) :
    ∃ ended unfinished, readings capacity pending (segments stream) = ended ++ [unfinished] ∧
      Denoted capacity (inSegment capacity entered ⟨[], pending⟩) stream ended unfinished := by
  -- The escape and the flag at the start of the remaining stream change with every segment.
  induction stream using segment_induction generalizing entered pending with
  | last segment hs =>
    refine ⟨[], Reading.ofSegment pending segment, ?_, denoted_last h hs⟩
    rw [segments_of_not_mem hs]
    rfl
  | ended segment rest hs ih =>
    obtain ⟨ended, unfinished, hr, hd⟩ :=
      ih ((Reading.ofSegment pending segment).carried capacity)
        (flagAfter_ne_overflowed entered (Reading.ofSegment pending segment))
    refine ⟨Reading.ofSegment pending segment :: ended, unfinished, ?_, denoted_ended h hs hd⟩
    rw [segments_append hs, readings_cons, hr, List.cons_append]

/-- Whatever a fresh decoder was fed, it is inside a segment. -/
theorem exists_feedAll_initial_eq (capacity : Nat) (history : List UInt8) :
    ∃ flag r, flag ≠ .overflowed ∧
      ((initial capacity).feedAll history).1 = inSegment capacity flag r := by
  have hc : FrameFlag.closed ≠ .overflowed := by decide
  obtain ⟨_, unfinished, _, hd⟩ := exists_denoted capacity false hc history
  rw [← initial_eq_inSegment] at hd
  obtain ⟨flag, hf, hl⟩ := hd.decoder
  exact ⟨flag, unfinished, hf, hl⟩

/-- The answers of a fresh decoder to a stream are cut like the stream. Every segment reports as
many overflows as its reading says. The delimiters, and nothing else, hand over the payloads of the
segments before them, those that are not empty and of which nothing was lost. The decoder is then as
the unfinished segment says. -/
theorem feedAll_initial_denotation (capacity : Nat) (stream : List UInt8) :
    ∃ ended unfinished, readings capacity false (segments stream) = ended ++ [unfinished] ∧
      let answers := (initial capacity).answered stream
      let last := ((initial capacity).feedAll stream).1
      (answers.splitOnP isEnd).map (List.map Prod.fst) = segments stream ∧
      (answers.splitOnP isEnd).map overflowCount =
        (ended ++ [unfinished]).map (Reading.losses capacity) ∧
      (answers.filter isEnd).map Prod.snd = ended.map (Reading.delivery capacity) ∧
      (∀ b bytes, (b, .payload bytes) ∈ answers → b = frameEnd) ∧
      last.buffer.toList = unfinished.held capacity ∧
      last.pendingEscape = unfinished.pending ∧
      (last.flag = .overflowed ↔ 1 ≤ unfinished.losses capacity) := by
  have hc : FrameFlag.closed ≠ .overflowed := by decide
  obtain ⟨ended, unfinished, hr, hd⟩ := exists_denoted capacity false hc stream
  rw [← initial_eq_inSegment] at hd
  obtain ⟨flag, hf, hl⟩ := hd.decoder
  refine ⟨ended, unfinished, hr, hd.parts, hd.losses, hd.deliveries,
    fun b bytes h => eq_frameEnd_of_mem_answered h, ?_, ?_, ?_⟩
  · rw [hl, toList_buffer_inSegment]
  · rw [hl, pendingEscape_inSegment]
  · rw [hl, flag_inSegment hf]

end FrameDecoder

end SerialTerminal.Slip
