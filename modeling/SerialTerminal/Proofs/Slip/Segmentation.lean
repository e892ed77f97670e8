import SerialTerminal.Slip.Stuffing

/-!
# Segments of a stream

A stream is its segments with a delimiter between any two of them. `segment_induction` reasons about
a stream from its front: it is one segment, or a segment, a delimiter and a stream.
-/

namespace SerialTerminal.Slip

/-- The segments are the pieces between delimiters. -/
theorem segments_eq_splitOn (stream : List UInt8) :
    segments stream = stream.splitOn frameEnd := by
  induction stream with
  | nil => rfl
  | cons b rest ih =>
    rw [List.splitOn_cons_eq_if_modifyHead, segments, ih]
    by_cases hb : b = frameEnd
    · rw [if_pos hb, if_pos (beq_iff_eq.mpr hb)]
    · rw [if_neg hb, if_neg (by rw [beq_iff_eq]; exact hb)]
      cases hs : rest.splitOn frameEnd with
      | nil => exact absurd hs (List.splitOn_ne_nil frameEnd rest)
      | cons first others => rfl

/-- A stream without delimiters is one segment. -/
theorem segments_of_not_mem {segment : List UInt8} (h : frameEnd ∉ segment) :
    segments segment = [segment] := by
  rw [segments_eq_splitOn, List.splitOn_eq_singleton h]

/-- The first delimiter ends the first segment. -/
theorem segments_append {segment : List UInt8} (h : frameEnd ∉ segment) (rest : List UInt8) :
    segments (segment ++ frameEnd :: rest) = segment :: segments rest := by
  rw [segments_eq_splitOn, segments_eq_splitOn, List.splitOn_append_cons_self_of_not_mem h]

/-- A stream has a first segment. -/
theorem exists_segments_eq_cons (stream : List UInt8) :
    ∃ first others, segments stream = first :: others := by
  apply List.exists_cons_of_ne_nil
  rw [segments_eq_splitOn]
  exact List.splitOn_ne_nil frameEnd stream

/-- What holds of one segment, and of a segment with a delimiter and more behind it whenever it
holds of what follows, holds of every stream. -/
@[elab_as_elim]
theorem segment_induction {motive : List UInt8 → Prop}
    (last : ∀ segment, frameEnd ∉ segment → motive segment)
    (ended : ∀ segment rest, frameEnd ∉ segment → motive rest →
      motive (segment ++ frameEnd :: rest))
    (stream : List UInt8) : motive stream := by
  induction hn : stream.length using Nat.strongRecOn generalizing stream with
  | ind n ih =>
    by_cases hm : frameEnd ∈ stream
    · obtain ⟨segment, rest, rfl, hs⟩ := List.eq_append_cons_of_mem hm
      refine ended segment rest hs (ih rest.length ?_ rest rfl)
      rw [← hn, List.length_append, List.length_cons]
      omega
    · exact last stream hm

end SerialTerminal.Slip
