import SerialTerminal.Proofs.Attempts
import SerialTerminal.Proofs.Charges
import SerialTerminal.Proofs.Contracts
import SerialTerminal.Proofs.DecimalColumns
import SerialTerminal.Proofs.HexDump.Reading
import SerialTerminal.Display.Viewer

/-!
# Representation of a viewer

A viewer may be fed on after a batch that failed. Whatever the output refuses and whatever the clock
says, its mode stays, its buffers and columns keep within their bounds and a closed frame is empty
(`View.Sound`). Failures are accounted for: each is a refusal of the output, a stamp that cannot be
written, or a byte that meets the full row that an earlier refusal left behind. Rows never grow too
long, and are never written with characters that have no byte (`sound_throughout`).
-/

namespace SerialTerminal

/-- The clock after it was read a number of times. -/
def Clock.after (clock : Clock) : Nat → Clock
  | 0 => clock
  | n + 1 => (clock.after n).advance

namespace DisplayMode

/-- Holds of the modes with stamps in front of lines. -/
def isDated : DisplayMode → Bool
  | .startDate | .date => true
  | _ => false

/-- Holds of a mode and those that a display can come to from it. -/
def Reaches (mode other : DisplayMode) : Prop :=
  other = mode ∨ mode.isDated ∧ other.isDated

end DisplayMode

namespace ReceptionBuffer

/-- A byte more. -/
theorem size_push (b : ReceptionBuffer) (value : UInt8) : (b.push value).size = b.size + 1 := by
  simp [size, push]

/-- A buffer that is not full holds less than its capacity. -/
theorem size_lt_of_not_isFull {b : ReceptionBuffer} (h : ¬ b.isFull) : b.size < b.capacity := by
  simpa [isFull] using h

end ReceptionBuffer

namespace Slip.FrameDecoder

/-- Holds of a decoder that keeps to a capacity. -/
structure Bounded (capacity : Nat) (d : FrameDecoder) : Prop where
  capacity_eq : d.buffer.capacity = capacity
  size_le : d.buffer.size ≤ capacity

variable {capacity : Nat} {d : FrameDecoder}

/-- A byte keeps a decoder within its capacity. -/
theorem Bounded.feed (h : d.Bounded capacity) (b : UInt8) : (d.feed b).1.Bounded capacity := by
  have hclear : d.buffer.clear.size ≤ capacity := Nat.zero_le capacity
  rw [FrameDecoder.feed]
  split
  · exact ⟨h.capacity_eq, h.size_le⟩
  · split
    · rw [onEnd]
      split
      · exact ⟨h.capacity_eq, h.size_le⟩
      · exact ⟨h.capacity_eq, hclear⟩
    · rw [onData]
      split
      · exact ⟨h.capacity_eq, hclear⟩
      · next hfull =>
        refine ⟨h.capacity_eq, ?_⟩
        rw [ReceptionBuffer.size_push, ← h.capacity_eq]
        exact ReceptionBuffer.size_lt_of_not_isFull hfull

/-- A closed decoder stays empty as long as it gets nothing but delimiters. -/
theorem isEmpty_feed (h : d.flag = .closed → d.buffer.isEmpty) {b : UInt8}
    (hb : d.flag = .closed → b = frameEnd) (hclosed : (d.feed b).1.flag = .closed) :
    (d.feed b).1.buffer.isEmpty := by
  rw [FrameDecoder.feed] at hclosed ⊢
  split at hclosed
  · next he =>
    rw [if_pos he]
    exact h hclosed
  · next he =>
    rw [if_neg he]
    split at hclosed
    · next hend =>
      rw [if_pos hend, onEnd]
      split
      · next hempty => exact hempty
      · rfl
    · next hend =>
      rw [if_neg hend, onData] at *
      split at hclosed
      · cases hclosed
      · exact absurd (hb hclosed) hend

end Slip.FrameDecoder

namespace View

open Slip.FrameDecoder (defaultCapacity)

/-- Holds of a view whose columns and buffers are within their bounds, and in which nothing is
buffered outside of frames. -/
structure Sound (view : View) : Prop where
  column_lt : view.column < DecimalColumns.lineWidth
  row_le : ∀ row, view.row? = some row →
    row.capacity = HexDump.rowWidth ∧ row.size ≤ HexDump.rowWidth
  frames_le : ∀ frames, view.frames? = some frames → frames.Bounded defaultCapacity
  empty_of_closed : ∀ frames, view.frames? = some frames → view.mode ≠ .slip →
    frames.flag = .closed → frames.buffer.isEmpty

/-- Holds of a view without a full row. -/
def Settled (view : View) : Prop := ∀ row, view.row? = some row → row.size < HexDump.rowWidth

section Views

/-- A view without buffers. -/
theorem sound_of_bare {view : View} (hrow : view.row? = none) (hframes : view.frames? = none)
    (hcolumn : view.column < DecimalColumns.lineWidth) : view.Sound ∧ view.Settled := by
  refine ⟨⟨hcolumn, ?_, ?_, ?_⟩, ?_⟩
  · simp [hrow]
  · simp [hframes]
  · simp [hframes]
  · simp [Settled, hrow]

/-- A view with a row in progress. -/
theorem sound_hex {row : ReceptionBuffer} (hcapacity : row.capacity = HexDump.rowWidth)
    (hsize : row.size ≤ HexDump.rowWidth) : (View.hex row).Sound where
  column_lt := (by decide : 0 < DecimalColumns.lineWidth)
  row_le := by
    rintro _ ⟨⟩
    exact ⟨hcapacity, hsize⟩
  frames_le := by rintro _ ⟨⟩
  empty_of_closed := by rintro _ ⟨⟩

/-- The row in progress is the one that counts. -/
theorem settled_hex {row : ReceptionBuffer} (h : row.size < HexDump.rowWidth) :
    (View.hex row).Settled := by
  rintro _ ⟨⟩
  exact h

/-- A view with a frame in progress. -/
theorem sound_slip {policy : FramePolicy} {frames : Slip.FrameDecoder}
    (hbounded : frames.Bounded defaultCapacity)
    (hempty : policy ≠ .exclusive → frames.flag = .closed → frames.buffer.isEmpty) :
    (View.slip policy frames).Sound where
  column_lt := (by decide : 0 < DecimalColumns.lineWidth)
  row_le := by rintro _ ⟨⟩
  frames_le := by
    rintro _ ⟨⟩
    exact hbounded
  empty_of_closed := by
    rintro _ ⟨⟩ hmode
    refine hempty ?_
    rintro rfl
    exact hmode rfl

/-- Frames leave no row behind. -/
theorem settled_slip (policy : FramePolicy) (frames : Slip.FrameDecoder) :
    (View.slip policy frames).Settled := by rintro _ ⟨⟩

/-- A fresh view is sound, whatever its mode, and holds no full row. -/
theorem sound_ofMode (mode : DisplayMode) : (ofMode mode).Sound ∧ (ofMode mode).Settled := by
  have hslip (policy : FramePolicy) : (View.slip policy (.initial defaultCapacity)).Sound :=
    sound_slip ⟨rfl, Nat.zero_le _⟩ fun _ _ => rfl
  cases mode with
  | startText | text | startDate | date | int => exact sound_of_bare rfl rfl (by decide)
  | hex => exact ⟨sound_hex rfl (by decide), settled_hex (by decide)⟩
  | slipAuto | slip | slipHide => exact ⟨hslip _, settled_slip _ _⟩

end Views

end View

namespace Viewer

open Act

/-- The refusals that the output of a viewer still holds. -/
def refusals (v : Viewer) : List Failure := v.output.writes.failures

/-- A row that is not too long can be written: all its characters have a byte. -/
theorem writeRow_eq {row : ReceptionBuffer} (hrow : row.toList.length ≤ HexDump.rowWidth)
    {lineEnd : List Char} (hend : ∀ c ∈ lineEnd, Text.IsLatin1 c) :
    writeRow row lineEnd =
      write (Text.latin1 ('\r' :: HexDump.layout [] row.toList ++ lineEnd)) := by
  have hlatin : ∀ c ∈ '\r' :: HexDump.layout [] row.toList ++ lineEnd, Text.IsLatin1 c := by
    rw [List.cons_append, List.forall_mem_cons, List.forall_mem_append]
    exact ⟨by decide, HexDump.isLatin1_layout (fun _ h => absurd h List.not_mem_nil) _, hend⟩
  rw [writeRow, HexDump.row_of_length_le [] hrow]
  simp only [writeText, Text.latin1?_eq_some hlatin]

/-- What a viewer was started with: its mode, its stamp and the clock. -/
structure Origin where
  mode : DisplayMode
  stamp : LineStamp
  clock : Clock

/-- What a viewer keeps: a sound view in a mode that it can come to from the first one, its stamp,
and the clock, which it only reads. The output holds given refusals. Where that is said, no full row
is left in the view. -/
structure Kept (o : Origin) (settled : Prop) (pending : List Failure) (v : Viewer) : Prop where
  sound : v.display.view.Sound
  reaches : o.mode.Reaches v.display.view.mode
  stamp_eq : v.display.stamp = o.stamp
  clock_eq : ∃ n, v.clock = o.clock.after n
  refusals_eq : v.refusals = pending
  settled : settled → v.display.view.Settled

/-- The failures that are no refusals: that of a stamp that cannot be written, and that of a byte
that meets a full row. -/
inductive Own (o : Origin) (settled : Prop) : Failure → Prop where
  | stamp (hmode : o.mode.isDated) {n : Nat} {cause : StampError}
      (h : o.stamp.text (o.clock.after n).reading = .error cause) : Own o settled (.stamp cause)
  | fullRow (hmode : o.mode = .hex) (h : ¬ settled) :
      Own o settled (.buffer (.full HexDump.rowWidth))

/-- What a viewer keeps where it fails. A refusal of the output is used up just if the viewer fails
for it. -/
inductive Failed (o : Origin) (settled : Prop) (pending : List Failure) (e : Failure)
    (v : Viewer) : Prop where
  | refused (hv : v.Kept o False v.refusals) (h : pending = e :: v.refusals)
  | own (hv : v.Kept o settled pending) (h : Own o settled e)

section Contracts

variable {o : Origin} {settled S S' : Prop} {pending : List Failure}

private theorem meets_write (bytes : List UInt8) :
    Meets (Kept o S pending) (write bytes) (fun _ => Kept o S pending)
      (Failed o settled pending) where
  ok := by
    rintro ⟨display, clock, ⟨writes, flushes⟩⟩ _ s' es hv hx
    rcases writes with _ | ⟨e | u, rest⟩ <;> cases hx
    · exact ⟨hv.sound, hv.reaches, hv.stamp_eq, hv.clock_eq, hv.refusals_eq, hv.settled⟩
    · exact ⟨hv.sound, hv.reaches, hv.stamp_eq, hv.clock_eq, hv.refusals_eq, hv.settled⟩
  error := by
    rintro ⟨display, clock, ⟨writes, flushes⟩⟩ e s' es hv hx
    rcases writes with _ | ⟨e | u, rest⟩ <;> cases hx
    exact .refused ⟨hv.sound, hv.reaches, hv.stamp_eq, hv.clock_eq, rfl, False.elim⟩
      hv.refusals_eq.symm

private theorem meets_setView {view : View} {E : Failure → Viewer → Prop} (hsound : view.Sound)
    (hreaches : o.mode.Reaches view.mode) (hsettled : S' → view.Settled) :
    Meets (Kept o S pending) (setView view) (fun _ => Kept o S' pending) E :=
  meets_modify fun _ hv =>
    ⟨hsound, hreaches, hv.stamp_eq, hv.clock_eq, hv.refusals_eq, hsettled⟩

private theorem meets_writeText {text : List Char} (h : ∀ c ∈ text, Text.IsLatin1 c) :
    Meets (Kept o S pending) (writeText text) (fun _ => Kept o S pending)
      (Failed o settled pending) := by
  rw [writeText, Text.latin1?_eq_some h]
  exact meets_write _

private theorem meets_writeRow {row : ReceptionBuffer} (hrow : row.size ≤ HexDump.rowWidth)
    {lineEnd : List Char} (hend : ∀ c ∈ lineEnd, Text.IsLatin1 c) :
    Meets (Kept o S pending) (writeRow row lineEnd) (fun _ => Kept o S pending)
      (Failed o settled pending) := by
  rw [writeRow_eq (row.length_toList ▸ hrow) hend]
  exact meets_write _

private theorem isLatin1_lineFeed : ∀ c ∈ ['\n'], Text.IsLatin1 c :=
  Text.isLatin1_of_all (by decide)

private theorem meets_writeFrame (payload : List UInt8) :
    Meets (Kept o S pending) (writeFrame payload) (fun _ => Kept o S pending)
      (Failed o settled pending) := by
  refine meets_forEach fun row hrow => meets_writeText ?_
  have hlabel : ∀ c ∈ frameLabel, Text.IsLatin1 c := Text.isLatin1_of_all (by decide)
  rw [List.cons_append, List.forall_mem_cons, List.forall_mem_append]
  exact ⟨by decide, HexDump.isLatin1_rows hlabel payload row hrow, isLatin1_lineFeed⟩

private theorem meets_now {E : Failure → Viewer → Prop} :
    Meets (Kept o S pending) (Act.on clock (fun clock v => { v with clock := clock }) Clock.now)
      (fun now v => Kept o S pending v ∧ ∃ n, now = (o.clock.after n).reading) E := by
  refine meets_of_ends fun v hv => ⟨v.clock.reading, _, [], rfl, ?_⟩
  obtain ⟨n, hn⟩ := hv.clock_eq
  refine ⟨⟨hv.sound, hv.reaches, hv.stamp_eq, ⟨n + 1, ?_⟩, hv.refusals_eq, hv.settled⟩, n, ?_⟩
  · exact congrArg Clock.advance hn
  · rw [hn]

private theorem meets_writeStamp (hmode : o.mode.isDated) :
    Meets (Kept o settled pending) writeStamp (fun _ => Kept o settled pending)
      (Failed o settled pending) := by
  refine meets_now.bind fun now => meets_gets_bind fun stamp => ?_
  refine meets_of_state fun v ⟨⟨hv, n, hn⟩, hstamp⟩ => ?_
  rw [hv.stamp_eq] at hstamp
  cases h : stamp.text now with
  | ok text => exact (meets_write _).mono (fun _ hs => hs.1.1) (fun _ _ h => h) fun _ _ h => h
  | error cause =>
    rw [← hstamp, hn] at h
    exact meets_fail fun _ hs => .own hs.1.1 (.stamp hmode h)

private theorem meets_setBare {view : View} {E : Failure → Viewer → Prop} (hrow : view.row? = none)
    (hframes : view.frames? = none) (hcolumn : view.column < DecimalColumns.lineWidth)
    (hreaches : o.mode.Reaches view.mode) :
    Meets (Kept o S pending) (setView view) (fun _ => Kept o S pending) E := by
  obtain ⟨hsound, hsettled⟩ := View.sound_of_bare hrow hframes hcolumn
  exact meets_setView hsound hreaches fun _ => hsettled

private theorem meets_receiveDated (hmode : o.mode.isDated) (b : UInt8) :
    Meets (Kept o settled pending) (receiveDated b) (fun _ => Kept o settled pending)
      (Failed o settled pending) := by
  refine (meets_write [b]).bind fun _ => ?_
  split
  · exact meets_setBare rfl rfl (by decide) (.inr ⟨hmode, rfl⟩)
  · exact meets_done fun _ hv => hv

private theorem meets_receiveDecimal (column : Nat) (hmode : o.mode.Reaches .int) (b : UInt8) :
    Meets (Kept o settled pending) (receiveDecimal column b) (fun _ => Kept o settled pending)
      (Failed o settled pending) := by
  refine (meets_writeText (DecimalColumns.isLatin1_cell b)).bind fun _ => ?_
  split
  · next hcolumn => exact meets_setBare rfl rfl hcolumn hmode
  · refine (meets_setBare rfl rfl (by decide) hmode).bind fun _ => ?_
    exact meets_writeText isLatin1_lineFeed

private theorem meets_receiveHex_full {row : ReceptionBuffer}
    (hcapacity : row.capacity = HexDump.rowWidth) (hfull : row.isFull)
    (hmode : o.mode.Reaches .hex) (hsettled : settled → (View.hex row).Settled)
    (b : UInt8) :
    Meets (Kept o settled pending) (receiveHex row b) (fun _ => Kept o settled pending)
      (Failed o settled pending) := by
  have happend : row.append b = .error (.full row.capacity) := if_pos hfull
  have hhex : o.mode = .hex := by
    rcases hmode with h | ⟨_, h⟩
    · exact h.symm
    · cases h
  have hunsettled : ¬ settled := by
    intro hs
    have hroom : row.size < row.capacity := hcapacity ▸ hsettled hs row rfl
    exact Nat.not_le.mpr hroom (of_decide_eq_true hfull)
  rw [receiveHex, happend, hcapacity]
  exact meets_fail fun _ hv => .own hv (.fullRow hhex hunsettled)

/-- While the row that is full is written, the view is not settled. -/
private theorem meets_receiveHex_push {row : ReceptionBuffer}
    (hcapacity : row.capacity = HexDump.rowWidth) (hfull : ¬ row.isFull)
    (hmode : o.mode.Reaches .hex) (b : UInt8) :
    Meets (Kept o settled pending) (receiveHex row b) (fun _ => Kept o settled pending)
      (Failed o settled pending) := by
  have happend : row.append b = .ok (row.push b) := if_neg hfull
  have hlonger : (row.push b).size ≤ HexDump.rowWidth := by
    rw [ReceptionBuffer.size_push, ← hcapacity]
    exact ReceptionBuffer.size_lt_of_not_isFull hfull
  have hpush : (View.hex (row.push b)).Sound := View.sound_hex hcapacity hlonger
  have hclear : (View.hex (row.push b).clear).Sound := View.sound_hex hcapacity (Nat.zero_le _)
  rw [receiveHex, happend]
  simp only
  by_cases hlast : (row.push b).isFull
  · have hset : Meets (Kept o settled pending) (setView (.hex (row.push b)))
        (fun _ => Kept o False pending) (Failed o settled pending) :=
      meets_setView hpush hmode False.elim
    refine hset.bind fun _ => ?_
    rw [if_pos hlast]
    refine (meets_writeRow hlonger isLatin1_lineFeed).bind fun _ => ?_
    exact meets_setView hclear hmode fun _ => View.settled_hex (by decide : 0 < HexDump.rowWidth)
  · have hshort : (row.push b).size < HexDump.rowWidth := by
      have hlt := ReceptionBuffer.size_lt_of_not_isFull hlast
      rwa [ReceptionBuffer.capacity_push, hcapacity] at hlt
    have hset : Meets (Kept o settled pending) (setView (.hex (row.push b)))
        (fun _ => Kept o settled pending) (Failed o settled pending) :=
      meets_setView hpush hmode fun _ => View.settled_hex hshort
    refine hset.bind fun _ => ?_
    rw [if_neg hlast]
    exact meets_done fun _ hv => hv

/-- A row that cannot be written stays full. What a viewer keeps beside that holds all along. -/
private theorem meets_receiveHex {row : ReceptionBuffer} (hsound : (View.hex row).Sound)
    (hmode : o.mode.Reaches .hex) (hsettled : settled → (View.hex row).Settled) (b : UInt8) :
    Meets (Kept o settled pending) (receiveHex row b) (fun _ => Kept o settled pending)
      (Failed o settled pending) := by
  obtain ⟨hcapacity, _⟩ := hsound.row_le row rfl
  by_cases hfull : row.isFull
  · exact meets_receiveHex_full hcapacity hfull hmode hsettled b
  · exact meets_receiveHex_push hcapacity hfull hmode b

private theorem meets_receiveFramed {policy : FramePolicy} {frames : Slip.FrameDecoder}
    (hsound : (View.slip policy frames).Sound)
    (hmode : o.mode.Reaches (View.slip policy frames).mode) {b : UInt8}
    (hb : policy ≠ .exclusive → frames.flag = .closed → b = Slip.frameEnd) :
    Meets (Kept o settled pending) (receiveFramed policy frames b)
      (fun _ => Kept o settled pending) (Failed o settled pending) := by
  have hpolicy : (View.slip policy (frames.feed b).1).mode = (View.slip policy frames).mode := by
    cases policy <;> rfl
  have hopen : policy ≠ .exclusive → (View.slip policy frames).mode ≠ .slip := by
    cases policy <;> simp [View.mode]
  have hnext : (View.slip policy (frames.feed b).1).Sound := by
    refine View.sound_slip ((hsound.frames_le frames rfl).feed b) fun hp => ?_
    exact Slip.FrameDecoder.isEmpty_feed (hsound.empty_of_closed frames rfl (hopen hp)) (hb hp)
  rw [← hpolicy] at hmode
  rw [receiveFramed]
  rcases hfeed : frames.feed b with ⟨next, reaction⟩
  rw [hfeed] at hnext hmode
  have hset : Meets (Kept o settled pending) (setView (.slip policy next))
      (fun _ => Kept o settled pending) (Failed o settled pending) :=
    meets_setView hnext hmode fun _ => View.settled_slip _ _
  refine hset.bind fun _ => ?_
  cases reaction with
  | silent => exact meets_done fun _ hv => hv
  | overflow => exact meets_emit fun _ hv => hv
  | payload bytes =>
    simp only
    split
    · exact meets_done fun _ hv => hv
    · exact meets_writeFrame bytes

private theorem meets_receiveIn {view : View} (hsound : view.Sound)
    (hmode : o.mode.Reaches view.mode) (hsettled : settled → view.Settled) (b : UInt8) :
    Meets (Kept o settled pending) (receiveIn view b) (fun _ => Kept o settled pending)
      (Failed o settled pending) := by
  cases view with
  | text initial => exact meets_write [b]
  | dated atLineStart =>
    have hdated : o.mode.isDated := by
      rcases hmode with h | h
      · rw [← h]
        cases atLineStart <;> rfl
      · exact h.1
    cases atLineStart with
    | false => exact meets_receiveDated hdated b
    | true =>
      refine (meets_writeStamp hdated).bind fun _ => ?_
      refine (meets_setBare rfl rfl (by decide) (.inr ⟨hdated, rfl⟩)).bind fun _ => ?_
      exact meets_receiveDated hdated b
  | decimal column => exact meets_receiveDecimal column hmode b
  | hex row => exact meets_receiveHex hsound hmode hsettled b
  | slip policy frames =>
    rw [receiveIn]
    split
    · exact meets_write [b]
    · next htext =>
      refine meets_receiveFramed hsound hmode fun hpolicy hclosed => ?_
      have hclosed' : (!frames.frameOpen) = true := by simp [Slip.FrameDecoder.frameOpen, hclosed]
      exact Decidable.not_not.mp fun hb => htext ⟨hpolicy, hclosed', hb⟩

private theorem meets_receive (b : UInt8) :
    Meets (Kept o settled pending) (receive b) (fun _ => Kept o settled pending)
      (Failed o settled pending) := by
  refine meets_gets_bind fun view => meets_of_state fun v ⟨hv, hview⟩ => ?_
  have hreceive : Meets (Kept o settled pending) (receiveIn view b) _ _ := meets_receiveIn
    (hview ▸ hv.sound) (hview ▸ hv.reaches) (hview ▸ hv.settled) b
  exact hreceive.mono (fun _ hs => hs.1) (fun _ _ h => h) fun _ _ h => h

private theorem meets_redraw :
    Meets (Kept o settled pending) redraw (fun _ => Kept o settled pending)
      (Failed o settled pending) := by
  refine meets_gets_bind fun view => meets_of_state fun v ⟨hv, hview⟩ => ?_
  cases view with
  | hex row =>
    simp only
    split
    · exact meets_done fun _ hs => hs.1
    · have hrow := (hv.sound.row_le row (by rw [hview]; rfl)).2
      have hwrite : Meets (Kept o settled pending) (writeRow row [])
          (fun _ => Kept o settled pending) (Failed o settled pending) :=
        meets_writeRow hrow fun _ h => absurd h List.not_mem_nil
      exact hwrite.mono (fun _ hs => hs.1) (fun _ _ h => h) fun _ _ h => h
  | _ => exact meets_done fun _ hs => hs.1

/-- A batch that is shown. -/
theorem meets_feed (data : List UInt8) :
    Meets (Kept o settled pending) (feed data) (fun _ => Kept o settled pending)
      (Failed o settled pending) :=
  (meets_forEach fun b _ => meets_receive b).bind fun _ => meets_redraw

end Contracts

/-- What holds of a viewer whatever it has met. It has a row just where it shows rows, and a frame
decoder just where it looks for frames. -/
structure Intact (mode : DisplayMode) (v : Viewer) : Prop where
  reaches : mode.Reaches v.display.view.mode
  row_iff : v.display.view.row?.isSome ↔ v.display.view.mode = .hex
  frames_iff : v.display.view.frames?.isSome ↔ v.display.view.mode.isSlip
  sound : v.display.view.Sound
  /-- The row in progress can be written. -/
  row_ok : ∀ row, v.display.view.row? = some row →
    ∃ text, HexDump.row [] row.toList = .ok text ∧ ∀ c ∈ text, Text.IsLatin1 c

/-- What comes of batches that are shown one after another, also after failures. -/
structure Lasting (o : Origin) (v : Viewer) (batches : List (List UInt8)) : Prop where
  intact : v.Intact o.mode ∧ ∀ a ∈ attempts feed v batches, a.after.Intact o.mode
  /-- A failure is a refusal of the output, or it is the viewer's own. No refusal is passed over. -/
  accounted : ∀ a ∈ attempts feed v batches,
    (a.step.outcome = .ok () ∧ a.after.refusals = a.before.refusals) ∨
      ∃ e, a.step.outcome = .error e ∧ (a.before.refusals = e :: a.after.refusals ∨
        a.after.refusals = a.before.refusals ∧ Own o False e)
  /-- Without refusals there are no failures but those of stamps. -/
  willing : (∀ a ∈ attempts feed v batches, a.after.refusals = a.before.refusals) →
    ∀ a ∈ attempts feed v batches, ∀ e, a.step.outcome = .error e →
      o.mode.isDated ∧ ∃ n cause, e = .stamp cause ∧
        o.stamp.text (o.clock.after n).reading = .error cause
  /-- The rows of frames can be written, whatever the frame. -/
  rows_ok : ∀ payload, ∀ text ∈ HexDump.rows frameLabel payload,
    ∃ label chunk, HexDump.row label chunk = .ok text ∧ chunk.length ≤ HexDump.rowWidth ∧
      ∀ c ∈ text, Text.IsLatin1 c

section Run

variable {o : Origin} {settled : Prop} {pending : List Failure} {v : Viewer}

/-- A viewer that keeps what it was started with is intact. -/
theorem Kept.intact (h : v.Kept o settled pending) : v.Intact o.mode where
  reaches := h.reaches
  row_iff := by
    cases v.display.view with
    | text initial => cases initial <;> simp [View.row?, View.mode]
    | dated atLineStart => cases atLineStart <;> simp [View.row?, View.mode]
    | slip policy frames => cases policy <;> simp [View.row?, View.mode]
    | _ => simp [View.row?, View.mode]
  frames_iff := by
    cases v.display.view with
    | text initial => cases initial <;> simp [View.frames?, View.mode, DisplayMode.isSlip]
    | dated atLineStart => cases atLineStart <;> simp [View.frames?, View.mode, DisplayMode.isSlip]
    | slip policy frames => cases policy <;> simp [View.frames?, View.mode, DisplayMode.isSlip]
    | _ => simp [View.frames?, View.mode, DisplayMode.isSlip]
  sound := h.sound
  row_ok := by
    intro row hrow
    have hlength : row.toList.length ≤ HexDump.rowWidth :=
      row.length_toList ▸ (h.sound.row_le row hrow).2
    refine ⟨_, HexDump.row_of_length_le [] hlength, ?_⟩
    exact HexDump.isLatin1_layout (fun _ hc => absurd hc List.not_mem_nil) _

/-- A viewer that was just started keeps all of it, and has no full row. -/
theorem kept_start (mode : DisplayMode) (timeFormat : Option String) (startTime : Bool)
    (clock : Clock) (output : Output) :
    let v := start mode timeFormat startTime clock output
    v.Kept ⟨mode, Display.stampFor timeFormat startTime clock.reading clock.zone, clock⟩ True
      v.refusals where
  sound := (View.sound_ofMode mode).1
  reaches := .inl (View.mode_ofMode mode)
  stamp_eq := rfl
  clock_eq := ⟨1, rfl⟩
  refusals_eq := rfl
  settled := fun _ => (View.sound_ofMode mode).2

/-- It may be left open whether a row is full, and what the output still refuses. -/
theorem Kept.unsettled (h : v.Kept o settled pending) : v.Kept o False v.refusals :=
  ⟨h.sound, h.reaches, h.stamp_eq, h.clock_eq, rfl, False.elim⟩

/-- One batch, whatever the viewer met before. -/
theorem kept_attempt (data : List UInt8) (hv : v.Kept o settled v.refusals) :
    let a : Attempt (List UInt8) Viewer := .make feed v data
    (a.step.outcome = .ok () ∧ a.after.Kept o settled v.refusals) ∨
      ∃ e, a.step.outcome = .error e ∧ Failed o settled v.refusals e a.after := by
  rcases hrun : (feed data).run v with ⟨e | u, v', es⟩
  · have hfailed := (meets_feed data).error hv hrun
    refine .inr ⟨e, congrArg Step.outcome hrun, ?_⟩
    rwa [Attempt.after, Attempt.make, hrun]
  · have hkept := (meets_feed data).ok hv hrun
    refine .inl ⟨congrArg Step.outcome hrun, ?_⟩
    rwa [Attempt.after, Attempt.make, hrun]

private theorem accounted_attempts (batches : List (List UInt8))
    (hv : v.Kept o False v.refusals) :
    ∀ a ∈ attempts feed v batches,
      ((a.step.outcome = .ok () ∧ a.after.refusals = a.before.refusals) ∨
        ∃ e, a.step.outcome = .error e ∧ (a.before.refusals = e :: a.after.refusals ∨
          a.after.refusals = a.before.refusals ∧ Own o False e)) ∧
      a.after.Kept o False a.after.refusals := by
  refine forall_attempts (P := fun v : Viewer => v.Kept o False v.refusals) (C := fun _ => True)
    hv (fun _ _ => trivial) fun v data hv _ => ?_
  obtain ⟨hok, hkept⟩ | ⟨e, he, hfailed⟩ := kept_attempt data hv
  · exact ⟨.inl ⟨hok, hkept.refusals_eq⟩, hkept.unsettled⟩
  · cases hfailed with
    | refused hkept h => exact ⟨.inr ⟨e, he, .inl h⟩, hkept⟩
    | own hkept h => exact ⟨.inr ⟨e, he, .inr ⟨hkept.refusals_eq, h⟩⟩, hkept.unsettled⟩

private theorem willing_attempts {batches : List (List UInt8)} (hv : v.Kept o True v.refusals)
    (hrun : ∀ a ∈ attempts feed v batches, a.after.refusals = a.before.refusals) :
    ∀ a ∈ attempts feed v batches,
      (∀ e, a.step.outcome = .error e → o.mode.isDated ∧ ∃ n cause, e = .stamp cause ∧
        o.stamp.text (o.clock.after n).reading = .error cause) ∧
      a.after.Kept o True a.after.refusals := by
  refine forall_attempts (P := fun v : Viewer => v.Kept o True v.refusals) hv hrun ?_
  intro v data hv hsame
  have hsame' : (Attempt.make feed v data).after.refusals = v.refusals := hsame
  obtain ⟨hok, hkept⟩ | ⟨e, he, hfailed⟩ := kept_attempt data hv
  · refine ⟨fun e he => ?_, hsame'.symm ▸ hkept⟩
    rw [hok] at he
    cases he
  · cases hfailed with
    | refused _ h =>
      rw [hsame'] at h
      exact absurd h.symm (List.cons_ne_self e _)
    | own hkept h =>
      refine ⟨fun e' he' => ?_, hsame'.symm ▸ hkept⟩
      obtain rfl : e = e' := Except.error.inj (he.symm.trans he')
      cases h with
      | stamp hmode hstamp => exact ⟨hmode, _, _, rfl, hstamp⟩
      | fullRow _ hfalse => exact absurd trivial hfalse

/-- A viewer is intact before and after every batch, and its failures are accounted for, whatever
the output refuses and whatever the clock says. -/
theorem sound_throughout (mode : DisplayMode) (timeFormat : Option String) (startTime : Bool)
    (clock : Clock) (output : Output) (batches : List (List UInt8)) :
    Lasting ⟨mode, Display.stampFor timeFormat startTime clock.reading clock.zone, clock⟩
      (start mode timeFormat startTime clock output) batches := by
  have hstart := kept_start mode timeFormat startTime clock output
  have hall := accounted_attempts batches hstart.unsettled
  refine ⟨⟨hstart.intact, fun a ha => (hall a ha).2.intact⟩, fun a ha => (hall a ha).1, ?_, ?_⟩
  · exact fun hrun a ha => (willing_attempts hstart hrun a ha).1
  · intro payload text htext
    have hlabel : ∀ c ∈ frameLabel, Text.IsLatin1 c := Text.isLatin1_of_all (by decide)
    have hlatin := HexDump.isLatin1_rows hlabel payload text htext
    obtain ⟨chunk, hchunk, htext⟩ := HexDump.mem_rows htext
    have hlength := HexDump.length_le_of_mem_chunks hchunk
    rcases htext with rfl | rfl
    · exact ⟨_, chunk, HexDump.row_of_length_le _ hlength, hlength, hlatin⟩
    · exact ⟨_, chunk, HexDump.row_of_length_le _ hlength, hlength, hlatin⟩

end Run

end Viewer

end SerialTerminal
