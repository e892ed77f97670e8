import SerialTerminal.Proofs.Slip.Segmentation
import SerialTerminal.Slip.FrameDecoder

/-!
# Readings of segments

A segment read without a bound on its length gives payload bytes and perhaps a pending escape. The
state of a decoder inside a segment follows from that reading alone: its buffer overflows once for
every full buffer and one byte more, and holds what came after the last overflow.

`feedAll_inSegment` is the invariant of a decoder inside a segment. `feed_frameEnd_inSegment` says
what a delimiter makes of it.
-/

namespace SerialTerminal.Slip

/-- What the bytes of a segment say: payload bytes, and whether an escape is pending after them. -/
structure Reading where
  bytes : List UInt8
  pending : Bool
deriving DecidableEq, Repr

namespace Reading

/-- The reading of a segment that is entered with or without a pending escape. -/
def ofSegment (pending : Bool) (segment : List UInt8) : Reading :=
  ⟨(unstuff pending segment).1, (unstuff pending segment).2⟩

/-- The reading with more bytes of the segment. -/
def extend (r : Reading) (more : List UInt8) : Reading :=
  ⟨r.bytes ++ (unstuff r.pending more).1, (unstuff r.pending more).2⟩

/-- The reading with one more payload byte. -/
def push (r : Reading) (x : UInt8) : Reading := ⟨r.bytes ++ [x], false⟩

/-- The reading with one more byte of the segment. -/
def step (r : Reading) (b : UInt8) : Reading :=
  if b = escape then ⟨r.bytes, true⟩ else r.push (if r.pending then unescape b else b)

/-- A payload byte leaves no escape pending. -/
@[simp] theorem pending_push (r : Reading) (x : UInt8) : (r.push x).pending = false := rfl

/-- How often a buffer overflows on the payload bytes. -/
def losses (capacity : Nat) (r : Reading) : Nat := r.bytes.length / (capacity + 1)

/-- How many payload bytes come after the last overflow. -/
def remainder (capacity : Nat) (r : Reading) : Nat := r.bytes.length % (capacity + 1)

/-- The payload bytes after the last overflow. -/
def held (capacity : Nat) (r : Reading) : List UInt8 :=
  r.bytes.drop (r.bytes.length - r.remainder capacity)

/-- Whether an escape outlives the delimiter behind the segment. -/
def carried (capacity : Nat) (r : Reading) : Bool :=
  if 1 ≤ r.remainder capacity then false else r.pending

/-- The reaction to the delimiter behind the segment. -/
def delivery (capacity : Nat) (r : Reading) : Reaction :=
  if r.losses capacity = 0 ∧ 1 ≤ r.bytes.length then .payload r.bytes else .silent

/-- The reaction to one more byte of the segment. -/
def reaction (capacity : Nat) (r : Reading) (b : UInt8) : Reaction :=
  if b ≠ escape ∧ r.remainder capacity = capacity then .overflow else .silent

/-- The reactions to more bytes of the segment. -/
def reactions (capacity : Nat) : Reading → List UInt8 → List Reaction
  | _, [] => []
  | r, b :: rest => r.reaction capacity b :: reactions capacity (r.step b) rest

/-- The reading of a segment extends that of no bytes. -/
theorem extend_empty (pending : Bool) (segment : List UInt8) :
    (Reading.mk [] pending).extend segment = ofSegment pending segment := rfl

@[simp] theorem extend_nil (r : Reading) : r.extend [] = r := by
  simp [extend, unstuff]

/-- A segment is read byte by byte. -/
theorem extend_cons (r : Reading) (b : UInt8) (rest : List UInt8) :
    r.extend (b :: rest) = (r.step b).extend rest := by
  by_cases hb : b = escape
  · simp [extend, step, unstuff, hb]
  · simp [extend, step, push, unstuff, hb]

/-- Nothing is lost of no bytes. -/
@[simp] theorem losses_empty (capacity : Nat) (pending : Bool) :
    losses capacity ⟨[], pending⟩ = 0 :=
  Nat.zero_div (capacity + 1)

/-- An escape outlives a delimiter that has no bytes before it. -/
@[simp] theorem carried_empty (capacity : Nat) (pending : Bool) :
    carried capacity ⟨[], pending⟩ = pending := by
  rw [carried, remainder, List.length_nil, Nat.zero_mod, if_neg (by decide)]

/-- A delimiter that has no bytes before it hands nothing over. -/
@[simp] theorem delivery_empty (capacity : Nat) (pending : Bool) :
    delivery capacity ⟨[], pending⟩ = .silent :=
  if_neg fun h => absurd h.2 (Nat.not_succ_le_zero 0)

/-- Nothing is lost of what fits into the buffer. -/
theorem losses_eq_zero_iff (capacity : Nat) (r : Reading) :
    r.losses capacity = 0 ↔ r.bytes.length ≤ capacity := by
  rw [losses, Nat.div_eq_zero_iff]
  omega

/-- The buffer never exceeds its capacity. -/
theorem remainder_le (capacity : Nat) (r : Reading) : r.remainder capacity ≤ capacity :=
  Nat.le_of_lt_succ (Nat.mod_lt _ (Nat.succ_pos capacity))

/-- The buffer holds as many bytes as came after the last overflow. -/
@[simp] theorem length_held (capacity : Nat) (r : Reading) :
    (r.held capacity).length = r.remainder capacity := by
  have hle : r.remainder capacity ≤ r.bytes.length := Nat.mod_le _ _
  rw [held, List.length_drop]
  omega

/-- The buffer is empty if nothing came after the last overflow. -/
theorem held_eq_nil_iff (capacity : Nat) (r : Reading) :
    r.held capacity = [] ↔ r.remainder capacity = 0 := by
  rw [← List.length_eq_zero_iff, length_held]

/-- The buffer holds all of a payload that fits. -/
theorem held_of_losses_eq_zero {capacity : Nat} {r : Reading} (h : r.losses capacity = 0) :
    r.held capacity = r.bytes := by
  have hr : r.remainder capacity = r.bytes.length :=
    Nat.mod_eq_of_lt (Nat.lt_succ_of_le ((losses_eq_zero_iff capacity r).mp h))
  rw [held, hr, Nat.sub_self, List.drop_zero]

/-- The payload is empty if nothing was lost and nothing is held. -/
theorem bytes_eq_nil_iff (capacity : Nat) (r : Reading) :
    r.bytes = [] ↔ r.losses capacity = 0 ∧ r.remainder capacity = 0 := by
  constructor
  · intro h
    simp [losses, remainder, h]
  · rintro ⟨hq, hr⟩
    rw [← held_of_losses_eq_zero hq, held_eq_nil_iff]
    exact hr

/-- A payload byte that finds the buffer full makes it overflow and leaves it empty. -/
theorem push_of_full {capacity : Nat} {r : Reading} (h : r.remainder capacity = capacity)
    (x : UInt8) :
    (r.push x).losses capacity = r.losses capacity + 1 ∧ (r.push x).remainder capacity = 0 := by
  apply (Nat.div_mod_unique (Nat.add_one_pos capacity)).mpr
  have hm := Nat.mod_add_div r.bytes.length (capacity + 1)
  rw [remainder] at h
  rw [losses, push, List.length_append, List.length_singleton, Nat.mul_succ]
  omega

/-- Any other payload byte is added to the buffer. -/
theorem push_of_lt {capacity : Nat} {r : Reading} (h : r.remainder capacity < capacity)
    (x : UInt8) :
    (r.push x).losses capacity = r.losses capacity ∧
      (r.push x).remainder capacity = r.remainder capacity + 1 := by
  apply (Nat.div_mod_unique (Nat.add_one_pos capacity)).mpr
  have hm := Nat.mod_add_div r.bytes.length (capacity + 1)
  rw [remainder] at h
  rw [losses, remainder, push, List.length_append, List.length_singleton]
  omega

/-- After an overflow the buffer is empty. -/
theorem held_push_of_full {capacity : Nat} {r : Reading} (h : r.remainder capacity = capacity)
    (x : UInt8) : (r.push x).held capacity = [] := by
  rw [held_eq_nil_iff]
  exact (push_of_full h x).2

/-- A byte that fits goes behind what the buffer holds. -/
theorem held_push_of_lt {capacity : Nat} {r : Reading} (h : r.remainder capacity < capacity)
    (x : UInt8) : (r.push x).held capacity = r.held capacity ++ [x] := by
  have hle : r.remainder capacity ≤ r.bytes.length := Nat.mod_le _ _
  rw [held, (push_of_lt h x).2, held, push, List.length_append, List.length_singleton,
    Nat.add_sub_add_right, List.drop_append_of_le_length (Nat.sub_le _ _)]

/-- The overflows reported for a segment are those of its reading. -/
theorem losses_step (capacity : Nat) (r : Reading) (b : UInt8) :
    (r.step b).losses capacity =
      [r.reaction capacity b].count .overflow + r.losses capacity := by
  by_cases hb : b = escape
  · simp [step, reaction, hb, losses]
  · rcases Nat.lt_or_eq_of_le (r.remainder_le capacity) with hlt | hfull
    · simp [step, reaction, hb, Nat.ne_of_lt hlt, (push_of_lt hlt _).1]
    · simp [step, reaction, hb, hfull, (push_of_full hfull _).1, Nat.add_comm]

/-- The overflows reported for the bytes of a segment are those of its reading. -/
theorem losses_extend (capacity : Nat) (r : Reading) (more : List UInt8) :
    (r.extend more).losses capacity =
      (r.reactions capacity more).count .overflow + r.losses capacity := by
  induction more generalizing r with
  | nil => rw [extend_nil, reactions, List.count_nil, Nat.zero_add]
  | cons b rest ih =>
    rw [extend_cons, ih, losses_step, reactions]
    simp only [List.count_cons, List.count_nil]
    omega

/-- The overflows reported for a segment from its start are those of its reading. -/
theorem count_reactions_empty (capacity : Nat) (pending : Bool) (segment : List UInt8) :
    (reactions capacity ⟨[], pending⟩ segment).count .overflow =
      (ofSegment pending segment).losses capacity := by
  rw [← extend_empty, losses_extend, losses_empty, Nat.add_zero]

/-- There is a reaction to every byte. -/
@[simp] theorem length_reactions (capacity : Nat) (r : Reading) (more : List UInt8) :
    (r.reactions capacity more).length = more.length := by
  induction more generalizing r with
  | nil => rfl
  | cons b rest ih => simp [reactions, ih]

/-- No byte of a segment completes a frame. -/
theorem eq_of_mem_reactions {capacity : Nat} {r : Reading} {more : List UInt8} {x : Reaction}
    (h : x ∈ r.reactions capacity more) : x = .silent ∨ x = .overflow := by
  induction more generalizing r with
  | nil => exact absurd h List.not_mem_nil
  | cons b rest ih =>
    rcases List.mem_cons.mp h with rfl | h
    · unfold reaction
      split
      · exact .inr rfl
      · exact .inl rfl
    · exact ih h

/-- A delimiter makes nothing overflow. -/
theorem delivery_ne_overflow (capacity : Nat) (r : Reading) : r.delivery capacity ≠ .overflow := by
  unfold delivery
  intro h
  split at h
  · cases h
  · cases h

/-- The bytes of a segment that fits into the buffer meet with silence. -/
theorem reactions_of_losses_eq_zero {capacity : Nat} {r : Reading} {more : List UInt8}
    (h : (r.extend more).losses capacity = 0) :
    r.reactions capacity more = List.replicate more.length .silent := by
  have hc : (r.reactions capacity more).count .overflow = 0 := by
    have := losses_extend capacity r more
    omega
  refine List.eq_replicate_iff.mpr ⟨length_reactions capacity r more, ?_⟩
  intro x hx
  rcases eq_of_mem_reactions hx with rfl | rfl
  · rfl
  · exact absurd hx (List.count_eq_zero.mp hc)

end Reading

namespace FrameDecoder

/-- The decoder inside a segment that it entered with a flag. -/
def inSegment (capacity : Nat) (entered : FrameFlag) (r : Reading) : FrameDecoder :=
  ⟨⟨capacity, (r.held capacity).toArray⟩, r.pending,
    if r.losses capacity = 0 then entered else .overflowed⟩

/-- The flag after the delimiter behind a segment. Only a segment without payload opens a frame. -/
def flagAfter (entered : FrameFlag) (r : Reading) : FrameFlag :=
  if r.bytes = [] ∧ entered = .closed then .opened else .closed

variable {capacity : Nat} {entered : FrameFlag} {r : Reading}

/-- A fresh decoder is inside a segment of which it has seen nothing. -/
theorem initial_eq_inSegment (capacity : Nat) :
    initial capacity = inSegment capacity .closed ⟨[], false⟩ := by
  simp [initial, inSegment, ReceptionBuffer.empty, Reading.held, Reading.losses]

@[simp] theorem toList_buffer_inSegment :
    (inSegment capacity entered r).buffer.toList = r.held capacity := rfl

@[simp] theorem pendingEscape_inSegment :
    (inSegment capacity entered r).pendingEscape = r.pending := rfl

/-- Only lost bytes mark a frame. -/
theorem flag_inSegment (h : entered ≠ .overflowed) :
    (inSegment capacity entered r).flag = .overflowed ↔ 1 ≤ r.losses capacity := by
  rw [inSegment, Nat.one_le_iff_ne_zero]
  by_cases hq : r.losses capacity = 0
  · simp [hq, h]
  · simp [hq]

@[simp] theorem size_buffer_inSegment :
    (inSegment capacity entered r).buffer.size = r.remainder capacity := by
  rw [← ReceptionBuffer.length_toList, toList_buffer_inSegment, Reading.length_held]

@[simp] theorem isFull_buffer_inSegment :
    (inSegment capacity entered r).buffer.isFull = decide (capacity ≤ r.remainder capacity) := by
  rw [ReceptionBuffer.isFull, size_buffer_inSegment]
  rfl

@[simp] theorem isEmpty_buffer_inSegment :
    (inSegment capacity entered r).buffer.isEmpty = decide (r.remainder capacity = 0) := by
  rw [ReceptionBuffer.isEmpty, size_buffer_inSegment]

/-- An escape is remembered. -/
theorem feed_escape_inSegment :
    (inSegment capacity entered r).feed escape =
      (inSegment capacity entered (r.step escape), r.reaction capacity escape) := by
  simp [feed, Reading.step, Reading.reaction, inSegment, Reading.held, Reading.losses,
    Reading.remainder]

/-- A payload byte is buffered or makes the buffer overflow. -/
theorem onData_inSegment (b : UInt8) (hb : b ≠ escape) :
    (inSegment capacity entered r).onData b =
      (inSegment capacity entered (r.step b), r.reaction capacity b) := by
  rw [onData, isFull_buffer_inSegment, pendingEscape_inSegment, Reading.step, if_neg hb,
    Reading.reaction]
  generalize (if r.pending = true then unescape b else b) = x
  rcases Nat.lt_or_eq_of_le (r.remainder_le capacity) with hlt | hfull
  · have hf : ¬ capacity ≤ r.remainder capacity := by omega
    have hn : ¬ (b ≠ escape ∧ r.remainder capacity = capacity) := fun hx => by omega
    rw [decide_eq_false hf, if_neg Bool.false_ne_true, if_neg hn]
    simp [inSegment, ReceptionBuffer.push, Reading.held_push_of_lt hlt,
      (Reading.push_of_lt hlt x).1]
  · have hf : capacity ≤ r.remainder capacity := by omega
    rw [decide_eq_true hf, if_pos rfl, if_pos ⟨hb, hfull⟩]
    simp [inSegment, onOverflow, ReceptionBuffer.clear, Reading.held_push_of_full hfull,
      (Reading.push_of_full hfull x).1]

/-- A byte of a segment takes the decoder from one reading to the next. -/
theorem feed_inSegment (b : UInt8) (hb : b ≠ frameEnd) :
    (inSegment capacity entered r).feed b =
      (inSegment capacity entered (r.step b), r.reaction capacity b) := by
  by_cases he : b = escape
  · rw [he]
    exact feed_escape_inSegment
  · rw [feed, if_neg he, if_neg hb]
    exact onData_inSegment b he

/-- The bytes of a segment take the decoder from one reading to a longer one. -/
theorem feedAll_inSegment {segment : List UInt8} (h : frameEnd ∉ segment) :
    (inSegment capacity entered r).feedAll segment =
      (inSegment capacity entered (r.extend segment), r.reactions capacity segment) := by
  induction segment generalizing r with
  | nil => rw [feedAll_nil, Reading.extend_nil, Reading.reactions]
  | cons b rest ih =>
    rw [List.mem_cons, not_or] at h
    rw [feedAll_cons, feed_inSegment b (Ne.symm h.1), ih h.2, Reading.extend_cons,
      Reading.reactions]

/-- The decoder at the start of a segment. -/
theorem inSegment_empty (flag : FrameFlag) (pending : Bool) :
    inSegment capacity flag ⟨[], pending⟩ = ⟨⟨capacity, #[]⟩, pending, flag⟩ := by
  simp [inSegment, Reading.held, Reading.losses]

private theorem onEnd_inSegment_of_empty (hr : r.remainder capacity = 0) :
    (inSegment capacity entered r).onEnd =
      (inSegment capacity (flagAfter entered r) ⟨[], r.pending⟩, .silent) := by
  rw [onEnd, isEmpty_buffer_inSegment, decide_eq_true hr, if_pos rfl, inSegment_empty]
  have hb := r.bytes_eq_nil_iff capacity
  have hh := (r.held_eq_nil_iff capacity).mpr hr
  by_cases hq : r.losses capacity = 0
  · simp [inSegment, flagAfter, hh, hq, hb, hr]
  · simp [inSegment, flagAfter, hh, hq, hb]

private theorem onEnd_inSegment_of_nonempty (hr : r.remainder capacity ≠ 0)
    (h : entered ≠ .overflowed) :
    (inSegment capacity entered r).onEnd =
      (inSegment capacity .closed ⟨[], false⟩,
        if r.losses capacity = 0 then .payload r.bytes else .silent) := by
  rw [onEnd, isEmpty_buffer_inSegment, decide_eq_false hr, if_neg Bool.false_ne_true,
    inSegment_empty, toList_buffer_inSegment]
  by_cases hq : r.losses capacity = 0
  · simp [inSegment, ReceptionBuffer.clear, hq, h, Reading.held_of_losses_eq_zero hq]
  · simp [inSegment, ReceptionBuffer.clear, hq]

/-- A delimiter ends the segment: the decoder hands the payload over if all of it is there, and
enters the next segment. -/
theorem feed_frameEnd_inSegment (h : entered ≠ .overflowed) :
    (inSegment capacity entered r).feed frameEnd =
      (inSegment capacity (flagAfter entered r) ⟨[], r.carried capacity⟩, r.delivery capacity) := by
  have hb := r.bytes_eq_nil_iff capacity
  rw [feed, if_neg (by decide), if_pos rfl]
  by_cases hr : r.remainder capacity = 0
  · have hd : r.delivery capacity = .silent := by
      rw [Reading.delivery, if_neg]
      rintro ⟨hq, hl⟩
      rw [hb.mpr ⟨hq, hr⟩] at hl
      exact absurd hl (by decide)
    rw [onEnd_inSegment_of_empty hr, hd, Reading.carried, if_neg (by omega)]
  · have hne : r.bytes ≠ [] := fun he => hr (hb.mp he).2
    have hl : 1 ≤ r.bytes.length := List.length_pos_iff.mpr hne
    have hf : flagAfter entered r = .closed := if_neg fun he => hne he.1
    have hc : r.carried capacity = false := if_pos (Nat.one_le_iff_ne_zero.mpr hr)
    rw [onEnd_inSegment_of_nonempty hr h, hf, hc, Reading.delivery]
    simp only [hl, and_true]

/-- A decoder enters no segment as one of which bytes were lost. -/
theorem flagAfter_ne_overflowed (entered : FrameFlag) (r : Reading) :
    flagAfter entered r ≠ .overflowed := by
  unfold flagAfter
  intro h
  split at h
  · cases h
  · cases h

end FrameDecoder

end SerialTerminal.Slip
