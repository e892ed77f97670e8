import SerialTerminal.Proofs.Slip.Denotation

/-!
# Resynchronisation

One delimiter brings a decoder back in step, whatever it was fed before: the next frame that fits
into its buffer comes through and leaves a fresh decoder. The one trace that noise can leave behind
is an escape that is pending on an empty buffer. It survives the delimiter and changes a payload
that starts with a byte that means another one after an escape.
-/

namespace SerialTerminal.Slip

/-- An escape that is pending before a stuffed byte changes what the byte means and nothing else. -/
theorem unstuff_true_stuffByte_append (b : UInt8) (rest : List UInt8) :
    unstuff true (stuffByte b ++ rest) =
      (unescape b :: (unstuff false rest).1, (unstuff false rest).2) := by
  unfold stuffByte
  split
  · next h =>
    subst h
    simp [unstuff, unescape, escape, escapedEnd, escapedEscape, frameEnd]
  · split
    · next h =>
      subst h
      simp [unstuff, unescape, escape, escapedEnd, escapedEscape]
    · next h => simp [unstuff, h]

/-- An escape that is pending before a stuffed payload changes its first byte and nothing else. -/
theorem ofSegment_stuff_cons (pending : Bool) (b : UInt8) (rest : List UInt8) :
    Reading.ofSegment pending (stuff (b :: rest)) =
      ⟨(if pending then unescape b else b) :: rest, false⟩ := by
  cases pending with
  | false => rw [Reading.ofSegment, unstuff_stuff, if_neg Bool.false_ne_true]
  | true =>
    rw [Reading.ofSegment, stuff_cons, unstuff_true_stuffByte_append, unstuff_stuff, if_pos rfl]

/-- An escape outlives a delimiter on an empty buffer. -/
theorem Reading.carried_eq_true_iff (capacity : Nat) (r : Reading) :
    r.carried capacity = true ↔ r.held capacity = [] ∧ r.pending = true := by
  rw [held_eq_nil_iff, carried]
  by_cases hr : r.remainder capacity = 0
  · rw [if_neg (by omega)]
    simp [hr]
  · rw [if_pos (by omega)]
    simp [hr]

/-- Only two bytes mean another one after an escape. -/
theorem unescape_eq_self_iff (b : UInt8) :
    unescape b = b ↔ ¬ (b = escapedEnd ∨ b = escapedEscape) := by
  rw [not_or]
  constructor
  · intro h
    refine ⟨?_, ?_⟩
    · rintro rfl
      exact absurd h (by decide)
    · rintro rfl
      exact absurd h (by decide)
  · rintro ⟨he, hs⟩
    rw [unescape, if_neg he, if_neg hs]

namespace FrameDecoder

variable {capacity : Nat}

/-- A segment with payload that fits into the buffer comes through, in silence up to its end, and
leaves a fresh decoder. -/
theorem feedAll_segment_of_fits {entered : FrameFlag} (h : entered ≠ .overflowed) {pending : Bool}
    {segment : List UInt8} (hs : frameEnd ∉ segment) {r : Reading}
    (ho : Reading.ofSegment pending segment = r) (hl : 1 ≤ r.bytes.length)
    (hle : r.bytes.length ≤ capacity) :
    (inSegment capacity entered ⟨[], pending⟩).feedAll (segment ++ [frameEnd]) =
      (initial capacity, List.replicate segment.length .silent ++ [.payload r.bytes]) := by
  have he : (Reading.mk [] pending).extend segment = r := ho
  have hq : r.losses capacity = 0 := (Reading.losses_eq_zero_iff capacity r).mpr hle
  have hne : r.bytes ≠ [] := List.ne_nil_of_length_pos hl
  have hr : r.remainder capacity ≠ 0 := fun hr =>
    hne ((Reading.bytes_eq_nil_iff capacity r).mpr ⟨hq, hr⟩)
  have hf : flagAfter entered r = .closed := if_neg fun hb => hne hb.1
  have hc : r.carried capacity = false := if_pos (Nat.one_le_iff_ne_zero.mpr hr)
  have hd : r.delivery capacity = .payload r.bytes := if_pos ⟨hq, hl⟩
  rw [← he] at hq
  rw [feedAll_append, feedAll_inSegment hs, Reading.reactions_of_losses_eq_zero hq, he,
    feedAll_cons, feed_frameEnd_inSegment h, hf, hc, hd, feedAll_nil, initial_eq_inSegment]

/-- Holds if an escape that a decoder is left with changes the payload of the next frame. -/
def Leaks (d : FrameDecoder) (payload : List UInt8) : Prop :=
  d.buffer.toList = [] ∧ d.pendingEscape = true ∧
    (payload.head? = some escapedEnd ∨ payload.head? = some escapedEscape)

private theorem leaks_iff (flag : FrameFlag) (r : Reading) (b : UInt8) (rest : List UInt8) :
    Leaks (inSegment capacity flag r) (b :: rest) ↔
      r.carried capacity = true ∧ (b = escapedEnd ∨ b = escapedEscape) := by
  rw [Leaks, Reading.carried_eq_true_iff, toList_buffer_inSegment, pendingEscape_inSegment,
    List.head?_cons, Option.some.injEq, Option.some.injEq, and_assoc]

private theorem received_eq_iff (flag : FrameFlag) (r : Reading) (b : UInt8) (rest : List UInt8) :
    (if r.carried capacity then unescape b else b) :: rest = b :: rest ↔
      ¬ Leaks (inSegment capacity flag r) (b :: rest) := by
  rw [leaks_iff, List.cons.injEq, and_iff_left rfl]
  cases r.carried capacity with
  | false => simp
  | true => simpa using unescape_eq_self_iff b

/-- After any history a delimiter and a frame that fits into the buffer give the payload of the
frame and nothing else, and leave a fresh decoder. Only where an escape leaks into the frame is the
first byte of the payload another one. -/
theorem feedAll_resynchronises (capacity : Nat) (history payload : List UInt8)
    (hl : 1 ≤ payload.length) (hle : payload.length ≤ capacity) :
    let d := ((initial capacity).feedAll history).1
    ∃ received,
      d.feedAll (frameEnd :: (stuff payload ++ [frameEnd])) =
        (initial capacity, (d.feed frameEnd).2 ::
          (List.replicate (stuff payload).length .silent ++ [.payload received])) ∧
      (d.feed frameEnd).2 ≠ .overflow ∧
      (received = payload ↔ ¬ Leaks d payload) ∧
      (Leaks d payload → payload.head? = some escapedEnd →
        received = frameEnd :: payload.tail) ∧
      (Leaks d payload → payload.head? = some escapedEscape →
        received = escape :: payload.tail) := by
  intro d
  obtain ⟨flag, r, hf, hd⟩ : ∃ flag r, flag ≠ .overflowed ∧ d = inSegment capacity flag r :=
    exists_feedAll_initial_eq capacity history
  obtain ⟨b, rest, rfl⟩ := List.exists_cons_of_length_pos hl
  have hfits := feedAll_segment_of_fits (flagAfter_ne_overflowed flag r)
    (frameEnd_not_mem_stuff (b :: rest)) (ofSegment_stuff_cons (r.carried capacity) b rest) hl hle
  rw [hd]
  refine ⟨(if r.carried capacity then unescape b else b) :: rest, ?_, ?_,
    received_eq_iff flag r b rest, ?_, ?_⟩
  · rw [feedAll_cons, feed_frameEnd_inSegment hf, hfits]
  · rw [feed_frameEnd_inSegment hf]
    exact r.delivery_ne_overflow capacity
  · intro hk hb
    obtain rfl := Option.some.inj hb
    rw [if_pos ((leaks_iff flag r _ rest).mp hk).1]
    rfl
  · intro hk hb
    obtain rfl := Option.some.inj hb
    rw [if_pos ((leaks_iff flag r _ rest).mp hk).1]
    rfl

/-- Three bytes for a buffer of two and an escape: that escape leaks into the next frame. -/
theorem feedAll_resynchronises_leak :
    let history : List UInt8 := [1, 2, 3, escape]
    let payload : List UInt8 := [escapedEnd, frameEnd]
    let d := ((initial 2).feedAll history).1
    1 ≤ payload.length ∧ payload.length ≤ 2 ∧ d.flag = .overflowed ∧ Leaks d payload ∧
      d.feedAll (frameEnd :: (stuff payload ++ [frameEnd])) =
        (initial 2, [.silent, .silent, .silent, .silent, .payload [frameEnd, frameEnd]]) := by
  intro history payload d
  have hl : Leaks d payload := by
    exact ⟨by decide, by decide, .inl rfl⟩
  obtain ⟨received, hrun, _, _, hend, _⟩ :=
    feedAll_resynchronises 2 history payload (by decide) (by decide)
  have hreceived : received = [frameEnd, frameEnd] := hend hl rfl
  rw [hreceived] at hrun
  exact ⟨by decide, by decide, by decide, hl, hrun⟩

end FrameDecoder

end SerialTerminal.Slip
