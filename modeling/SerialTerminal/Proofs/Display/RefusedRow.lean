import SerialTerminal.Proofs.Display.Representation

/-!
# Rows that are refused

A viewer may be fed on after the output refused a write. Everywhere but in one place it then goes on
as if nothing had happened. A row of digits that is full stays full if its write is refused, and a
full row takes no byte: from then on every batch with bytes fails, shows nothing and changes
nothing, whatever the output does. This is the only way in which a buffer ever refuses a byte
(`feed_after_refusals`).
-/

namespace SerialTerminal.Viewer

open Act
open HexDump (rowWidth)

/-- Holds of a viewer whose row in progress is full. -/
def HoldsFullRow (v : Viewer) : Prop := ∃ row, v.display.view.row? = some row ∧ row.isFull

/-- The number of bytes in the row in progress. -/
def rowSize (v : Viewer) : Nat := (v.display.view.row?.map ReceptionBuffer.size).getD 0

/-- Holds of a batch that leaves a full row unwritten: a write was refused, and fewer of them had
succeeded than rows had become full. -/
structure LosesRow (a : Attempt (List UInt8) Viewer) : Prop where
  refused : a.after.refusals ≠ a.before.refusals
  unwritten : a.step.events.length < (a.before.rowSize + a.input.length) / rowWidth

/-- Holds of a batch that is to add bytes to a full row which an earlier batch left unwritten. -/
def Jammed (mode : DisplayMode) (first : Viewer) (history : List (List UInt8))
    (data : List UInt8) : Prop :=
  mode = .hex ∧ data ≠ [] ∧ ∃ earlier ∈ attempts feed first history, LosesRow earlier

/-- What comes of a batch where the failures before it have left nothing behind. -/
structure Recovers (mode : DisplayMode) (a : Attempt (List UInt8) Viewer) : Prop where
  /-- No buffer refuses a byte, as long as the output fails as devices do. -/
  room : (∀ e ∈ a.before.refusals, e.isSystem) → ∀ cause, a.step.outcome ≠ .error (.buffer cause)
  /-- Where the output refuses nothing, nothing fails but stamps. -/
  ends_well : ¬ mode.isDated → a.after.refusals = a.before.refusals → a.step.outcome = .ok ()

/-- A viewer with another row in progress. -/
private def withRow (v : Viewer) (row : ReceptionBuffer) : Viewer :=
  { v with display := { v.display with view := .hex row } }

/-- Holds of a step that was one write. -/
private inductive Writes (v : Viewer) : Step Viewer Unit → Prop where
  | shown (output : Output) (bytes : List UInt8) :
    Writes v ⟨.ok (), { v with output := output }, [.shown bytes]⟩
  | refused {e : Failure} (output : Output) (h : v.refusals = e :: output.writes.failures) :
    Writes v ⟨.error e, { v with output := output }, []⟩

/-- Holds of a step in which the bytes for the row in progress came to a total. Either all rows that
became full were written, or the write of one of them was refused and the row stays full. -/
private inductive TakesRows (total : Nat) : Step Viewer Unit → Prop where
  | all {s : Viewer} {row : ReceptionBuffer} {es : List Event} (hview : s.display.view = .hex row)
      (hcapacity : row.capacity = rowWidth) (hsize : row.size = total % rowWidth)
      (hevents : es.length = total / rowWidth) : TakesRows total ⟨.ok (), s, es⟩
  | refused {e : Failure} {s : Viewer} {es : List Event} (hfull : s.HoldsFullRow)
      (hevents : es.length < total / rowWidth) : TakesRows total ⟨.error e, s, es⟩

section Steps

variable {v : Viewer} {row : ReceptionBuffer}

/-- A write changes nothing but the output. -/
private theorem writes_write (v : Viewer) (bytes : List UInt8) :
    Writes v ((write bytes).run v) := by
  rcases v with ⟨display, clock, ⟨writes, flushes⟩⟩
  rcases writes with _ | ⟨e | u, rest⟩
  · exact .shown ⟨[], flushes⟩ bytes
  · exact .refused ⟨rest, flushes⟩ rfl
  · exact .shown ⟨rest, flushes⟩ bytes

private theorem writes_writeRow (v : Viewer) (hrow : row.size ≤ rowWidth) {lineEnd : List Char}
    (hend : ∀ c ∈ lineEnd, Text.IsLatin1 c) : Writes v ((writeRow row lineEnd).run v) := by
  rw [writeRow_eq (row.length_toList ▸ hrow) hend]
  apply writes_write

/-- A row that has become full is written and then empty, or it stays full. -/
private theorem takesRows_writeRow (v : Viewer) (hcapacity : row.capacity = rowWidth)
    (hsize : row.size = rowWidth) :
    TakesRows rowWidth
      ((writeRow row ['\n'] >>= fun _ => setView (.hex row.clear)).run (v.withRow row)) := by
  have hfull : row.isFull := by simp [ReceptionBuffer.isFull, hcapacity, hsize]
  have hwrites := writes_writeRow (v.withRow row) (Nat.le_of_eq hsize)
    (Text.isLatin1_of_all (by decide) : ∀ c ∈ ['\n'], Text.IsLatin1 c)
  rcases hwrite : (writeRow row ['\n']).run (v.withRow row) with ⟨outcome, s, es⟩
  rw [hwrite] at hwrites
  cases hwrites with
  | shown output bytes =>
    rw [run_bind_of_ok _ hwrite]
    exact .all rfl hcapacity rfl (Nat.div_self (by decide)).symm
  | refused output h =>
    rw [run_bind_of_error _ hwrite]
    exact .refused ⟨row, rfl, hfull⟩ (by decide)

/-- A byte that finds room in a row, and one that fills it. -/
private theorem takesRows_receive (hview : v.display.view = .hex row)
    (hcapacity : row.capacity = rowWidth) (hsize : row.size < rowWidth) (b : UInt8) :
    TakesRows (row.size + 1) ((receive b).run v) := by
  have hroom : ¬ row.isFull := by simpa [ReceptionBuffer.isFull, hcapacity] using hsize
  have happend : row.append b = .ok (row.push b) := if_neg hroom
  have hpush : (row.push b).size = row.size + 1 := row.size_push b
  have hset : (setView (.hex (row.push b))).run v = ⟨.ok (), v.withRow (row.push b), []⟩ := rfl
  have hreceive : (receive b).run v = (receiveHex row b).run v := by
    change (receiveIn v.display.view b).run v = _
    rw [hview, receiveIn]
  rw [hreceive, receiveHex, happend]
  simp only
  rw [run_bind_of_ok _ hset]
  by_cases hfull : (row.push b).isFull
  · have hlast : row.size + 1 = rowWidth := by
      simp only [ReceptionBuffer.isFull, ReceptionBuffer.capacity_push, hcapacity, hpush,
        decide_eq_true_eq] at hfull
      omega
    rw [if_pos hfull, hlast]
    exact takesRows_writeRow v hcapacity (hpush.trans hlast)
  · have hlt : row.size + 1 < rowWidth := by
      simpa [ReceptionBuffer.isFull, hcapacity, hpush] using hfull
    rw [if_neg hfull]
    refine .all rfl hcapacity ?_ ?_
    · rw [hpush, Nat.mod_eq_of_lt hlt]
    · rw [Nat.div_eq_of_lt hlt]
      rfl

/-- So for the bytes of a batch, one after another. -/
private theorem takesRows_forEach_receive (hview : v.display.view = .hex row)
    (hcapacity : row.capacity = rowWidth) (hsize : row.size < rowWidth) (data : List UInt8) :
    TakesRows (row.size + data.length) ((forEach receive data).run v) := by
  induction data generalizing v row with
  | nil => exact .all hview hcapacity (Nat.mod_eq_of_lt hsize).symm (Nat.div_eq_of_lt hsize).symm
  | cons b rest ih =>
    have hfirst := takesRows_receive hview hcapacity hsize b
    have htotal : row.size + (b :: rest).length = row.size + 1 + rest.length := by
      rw [List.length_cons]
      omega
    rw [forEach, htotal]
    rcases hrun : (receive b).run v with ⟨outcome, s, es⟩
    rw [hrun] at hfirst
    cases hfirst with
    | refused hfull hevents =>
      rw [run_bind_of_error _ hrun]
      refine .refused hfull (Nat.lt_of_lt_of_le hevents ?_)
      exact Nat.div_le_div_right (Nat.le_add_right _ _)
    | @all _ next _ hview' hcapacity' hsize' hevents =>
      have hlt : next.size < rowWidth := hsize' ▸ Nat.mod_lt _ (by decide)
      have hsplit : (row.size + 1 + rest.length) / rowWidth =
          (row.size + 1) / rowWidth + (next.size + rest.length) / rowWidth := by
        rw [hsize', rowWidth]
        omega
      have hrest := ih hview' hcapacity' hlt
      rw [run_bind_of_ok _ hrun]
      rcases hlater : (forEach receive rest).run s with ⟨outcome, s', fs⟩
      rw [hlater] at hrest
      cases hrest with
      | all hview'' hcapacity'' hsize'' hevents' =>
        refine .all hview'' hcapacity'' ?_ ?_
        · rw [hsize'', hsize', Nat.mod_add_mod]
        · rw [List.length_append, hevents, hevents', hsplit]
      | refused hfull hevents' =>
        refine .refused hfull ?_
        rw [List.length_append, hevents, hsplit]
        exact Nat.add_lt_add_left hevents' _

/-- At the end of a batch the row in progress is written, if there is anything in it. -/
private theorem writes_redraw (hview : v.display.view = .hex row) (hsize : row.size ≤ rowWidth) :
    redraw.run v = ⟨.ok (), v, []⟩ ∨ Writes v (redraw.run v) := by
  have hredraw : redraw.run v =
      (if row.isEmpty then Act.done () else writeRow row []).run v := by
    rcases v with ⟨⟨view, stamp⟩, clock, output⟩
    obtain rfl : view = .hex row := hview
    rfl
  rw [hredraw]
  split
  · exact .inl rfl
  · exact .inr (writes_writeRow v hsize (by simp))

/-- That leaves the display alone. -/
private theorem run_redraw_display (hview : v.display.view = .hex row)
    (hsize : row.size ≤ rowWidth) : (redraw.run v).state.display = v.display := by
  rcases writes_redraw hview hsize with h | h
  · rw [h]
  · rcases hrun : redraw.run v with ⟨outcome, s, es⟩
    rw [hrun] at h
    cases h <;> rfl

/-- A full row takes no byte, and a batch that brings one changes nothing. -/
theorem run_feed_of_isFull (hview : v.display.view = .hex row) (hcapacity : row.capacity = rowWidth)
    (hfull : row.isFull) {data : List UInt8} (hdata : data ≠ []) :
    (feed data).run v = ⟨.error (.buffer (.full rowWidth)), v, []⟩ := by
  obtain ⟨b, rest, rfl⟩ := List.exists_cons_of_ne_nil hdata
  have happend : row.append b = .error (.full rowWidth) := hcapacity ▸ if_pos hfull
  have hreceive : (receive b).run v = ⟨.error (.buffer (.full rowWidth)), v, []⟩ := by
    change (receiveIn v.display.view b).run v = _
    rw [hview, receiveIn, receiveHex, happend]
    rfl
  exact run_bind_of_error _ (run_bind_of_error _ hreceive)

end Steps

section History

variable {o : Origin} {settled : Prop} {pending : List Failure} {v : Viewer}

/-- Where rows are shown, there is always one in progress. -/
private theorem Kept.exists_row (hv : v.Kept o settled pending) (hmode : o.mode = .hex) :
    ∃ row, v.display.view = .hex row ∧ row.capacity = rowWidth ∧ row.size ≤ rowWidth := by
  have hhex : v.display.view.mode = .hex := by
    rcases hv.reaches with h | ⟨hdated, _⟩
    · rw [h, hmode]
    · rw [hmode] at hdated
      cases hdated
  have hrow := (hv.intact.row_iff).mpr hhex
  cases hview : v.display.view with
  | hex row => exact ⟨row, rfl, hv.sound.row_le row (by rw [hview]; rfl)⟩
  | _ =>
    rw [hview] at hrow
    cases hrow

private theorem holdsFullRow_iff {row : ReceptionBuffer} (hview : v.display.view = .hex row) :
    v.HoldsFullRow ↔ row.isFull := by
  rw [HoldsFullRow, hview]
  exact ⟨fun ⟨_, hrow, hfull⟩ => Option.some.inj hrow ▸ hfull, fun hfull => ⟨row, rfl, hfull⟩⟩

/-- Without a full row a viewer is settled. -/
private theorem Kept.settle (hv : v.Kept o settled pending) (hfull : ¬ v.HoldsFullRow) :
    v.Kept o True v.refusals where
  sound := hv.sound
  reaches := hv.reaches
  stamp_eq := hv.stamp_eq
  clock_eq := hv.clock_eq
  refusals_eq := rfl
  settled := by
    intro _ row hrow
    have hroom : ¬ row.isFull := fun h => hfull ⟨row, hrow, h⟩
    rw [← (hv.sound.row_le row hrow).1]
    exact ReceptionBuffer.size_lt_of_not_isFull hroom

/-- A viewer that fails while its row is not full fails for a refusal. -/
private theorem refused_of_settled (hv : v.Kept o True v.refusals) (hmode : o.mode = .hex)
    {data : List UInt8} {e : Failure}
    (he : (Attempt.make feed v data).step.outcome = .error e) :
    v.refusals = e :: (Attempt.make feed v data).after.refusals := by
  rcases kept_attempt data hv with ⟨hok, _⟩ | ⟨cause, hcause, hfailed⟩
  · rw [hok] at he
    cases he
  · obtain rfl : cause = e := Except.error.inj (hcause.symm.trans he)
    cases hfailed with
    | refused _ h => exact h
    | own _ h =>
      cases h with
      | stamp hdated _ =>
        rw [hmode] at hdated
        cases hdated
      | fullRow _ h => exact absurd trivial h

/-- A row that is full stays so. -/
private theorem holdsFullRow_after (hv : v.Kept o False v.refusals) (hmode : o.mode = .hex)
    (hfull : v.HoldsFullRow) (data : List UInt8) :
    (Attempt.make feed v data).after.HoldsFullRow := by
  obtain ⟨row, hview, hcapacity, hsize⟩ := hv.exists_row hmode
  have hdisplay : (Attempt.make feed v data).after.display = v.display := by
    by_cases hdata : data = []
    · rw [hdata]
      exact run_redraw_display hview hsize
    · rw [Attempt.after, Attempt.make,
        run_feed_of_isFull hview hcapacity ((holdsFullRow_iff hview).mp hfull) hdata]
  rwa [HoldsFullRow, hdisplay]

/-- A row becomes full for good if it is not written. -/
private theorem holdsFullRow_after_iff_losesRow (hv : v.Kept o False v.refusals)
    (hmode : o.mode = .hex) (hfull : ¬ v.HoldsFullRow) (data : List UInt8) :
    (Attempt.make feed v data).after.HoldsFullRow ↔ LosesRow (Attempt.make feed v data) := by
  obtain ⟨row, hview, hcapacity, _⟩ := hv.exists_row hmode
  have hroom : row.size < rowWidth :=
    hcapacity ▸ ReceptionBuffer.size_lt_of_not_isFull (mt (holdsFullRow_iff hview).mpr hfull)
  have hrowSize : v.rowSize = row.size := by rw [rowSize, hview]; rfl
  have htakes := takesRows_forEach_receive hview hcapacity hroom data
  rcases hbytes : (forEach receive data).run v with ⟨outcome, s, es⟩
  rw [hbytes] at htakes
  cases htakes with
  | @refused e _ _ hfull' hevents =>
    have hrun : (feed data).run v = ⟨.error e, s, es⟩ := run_bind_of_error _ hbytes
    have he : (Attempt.make feed v data).step.outcome = .error e := by rw [Attempt.make, hrun]
    have hrefused := refused_of_settled (hv.settle hfull) hmode he
    refine iff_of_true ?_ ⟨fun hsame => ?_, ?_⟩
    · rwa [Attempt.after, Attempt.make, hrun]
    · exact absurd (hsame.trans hrefused).symm (List.cons_ne_self e _)
    · rw [Attempt.make, hrun, hrowSize]
      exact hevents
  | @all _ next _ hview' hcapacity' hsize' hevents =>
    have hrun : (feed data).run v =
        ⟨(redraw.run s).outcome, (redraw.run s).state, es ++ (redraw.run s).events⟩ :=
      run_bind_of_ok _ hbytes
    have hlt : next.size < rowWidth := hsize' ▸ Nat.mod_lt _ (by decide)
    have hdisplay := run_redraw_display hview' (Nat.le_of_lt hlt)
    refine iff_of_false ?_ fun h => ?_
    · have hafter : (Attempt.make feed v data).after.display.view = .hex next := by
        rw [Attempt.after, Attempt.make, hrun, hdisplay, hview']
      rw [holdsFullRow_iff hafter, ReceptionBuffer.isFull, hcapacity', decide_eq_true_iff]
      omega
    · have hfew := h.unwritten
      rw [Attempt.make, hrun, hrowSize, List.length_append, hevents] at hfew
      exact absurd hfew (by simp)

/-- A row is full after a batch if it was so before, or if the batch left it unwritten. -/
theorem holdsFullRow_after_iff (hv : v.Kept o False v.refusals) (hmode : o.mode = .hex)
    (data : List UInt8) :
    (Attempt.make feed v data).after.HoldsFullRow ↔
      v.HoldsFullRow ∨ LosesRow (Attempt.make feed v data) := by
  by_cases hfull : v.HoldsFullRow
  · exact iff_of_true (holdsFullRow_after hv hmode hfull data) (.inl hfull)
  · rw [or_iff_right hfull]
    exact holdsFullRow_after_iff_losesRow hv hmode hfull data

/-- What a viewer keeps holds after any batches. -/
theorem kept_stateAfter (hv : v.Kept o False v.refusals) (history : List (List UInt8)) :
    (stateAfter feed v history).Kept o False (stateAfter feed v history).refusals := by
  induction history generalizing v with
  | nil => exact hv
  | cons data rest ih =>
    refine ih ?_
    rcases kept_attempt data hv with ⟨_, hkept⟩ | ⟨_, _, hfailed⟩
    · exact hkept.unsettled
    · cases hfailed with
      | refused hkept _ => exact hkept
      | own hkept _ => exact hkept.unsettled

/-- A row is full after some batches if it was so before, or if one of them left it unwritten. -/
theorem holdsFullRow_stateAfter_iff (hv : v.Kept o False v.refusals) (hmode : o.mode = .hex)
    (history : List (List UInt8)) :
    (stateAfter feed v history).HoldsFullRow ↔
      v.HoldsFullRow ∨ ∃ a ∈ attempts feed v history, LosesRow a := by
  induction history generalizing v with
  | nil => simp [stateAfter]
  | cons data rest ih =>
    have hnext := kept_stateAfter hv [data]
    have hrest := ih hnext
    rw [stateAfter] at hrest
    simp only [attempts_cons, List.mem_cons, exists_eq_or_imp, ← or_assoc]
    rwa [← holdsFullRow_after_iff hv hmode data]

/-- A batch without bytes fails for nothing but refusals where rows are shown. -/
private theorem refused_of_nil (hv : v.Kept o False v.refusals) (hmode : o.mode = .hex)
    {e : Failure} (he : (Attempt.make feed v []).step.outcome = .error e) :
    v.refusals = e :: (Attempt.make feed v []).after.refusals := by
  obtain ⟨row, hview, _, hsize⟩ := hv.exists_row hmode
  rcases hredraw : redraw.run v with ⟨outcome, s, es⟩
  have hmake : Attempt.make feed v [] = ⟨[], v, ⟨outcome, s, es⟩⟩ :=
    congrArg (Attempt.mk [] v) hredraw
  rw [hmake] at he
  rw [Attempt.after, hmake]
  obtain rfl : outcome = .error e := he
  rcases writes_redraw hview hsize with h | h
  · cases hredraw.symm.trans h
  · rw [hredraw] at h
    cases h with
    | refused output h => exact h

/-- Unless a full row is to take bytes, failures are refusals or those of stamps. -/
private theorem blamed (hv : v.Kept o False v.refusals) {data : List UInt8}
    (hroom : ¬ (o.mode = .hex ∧ data ≠ [] ∧ v.HoldsFullRow)) {e : Failure}
    (he : (Attempt.make feed v data).step.outcome = .error e) :
    v.refusals = e :: (Attempt.make feed v data).after.refusals ∨
      o.mode.isDated ∧ ∃ cause, e = .stamp cause := by
  rcases kept_attempt data hv with ⟨hok, _⟩ | ⟨cause, hcause, hfailed⟩
  · rw [hok] at he
    cases he
  obtain rfl : cause = e := Except.error.inj (hcause.symm.trans he)
  cases hfailed with
  | refused _ h => exact .inl h
  | own _ h =>
    cases h with
    | stamp hdated _ => exact .inr ⟨hdated, _, rfl⟩
    | fullRow hmode _ =>
      left
      by_cases hdata : data = []
      · subst hdata
        exact refused_of_nil hv hmode he
      · have hfull : ¬ v.HoldsFullRow := fun h => hroom ⟨hmode, hdata, h⟩
        exact refused_of_settled (hv.settle hfull) hmode he

/-- Then a batch goes as if nothing had failed before. -/
private theorem recovers (hv : v.Kept o False v.refusals) {data : List UInt8}
    (hroom : ¬ (o.mode = .hex ∧ data ≠ [] ∧ v.HoldsFullRow)) :
    Recovers o.mode (.make feed v data) where
  room := by
    intro hsystem cause he
    rcases blamed hv hroom he with h | ⟨_, _, h⟩
    · have hours : (Failure.buffer cause).isSystem = false := by cases cause <;> rfl
      have hmem : Failure.buffer cause ∈ v.refusals := h ▸ List.mem_cons_self
      rw [hsystem _ hmem] at hours
      cases hours
    · cases h
  ends_well := by
    intro hundated hsame
    rcases he : (Attempt.make feed v data).step.outcome with e | u
    · rcases blamed hv hroom he with h | ⟨hdated, _⟩
      · exact absurd (hsame.trans h).symm (List.cons_ne_self e _)
      · exact absurd hdated hundated
    · rfl

end History

/-- Whatever the output has refused so far, a viewer takes the next batch, unless it is to add bytes
to a row that could not be written when it was full. Then the batch fails without any effect, so
that the viewer never gets out of it. -/
theorem feed_after_refusals (mode : DisplayMode) (timeFormat : Option String) (startTime : Bool)
    (clock : Clock) (output : Output) (history : List (List UInt8)) (data : List UInt8) :
    let first := start mode timeFormat startTime clock output
    let a : Attempt (List UInt8) Viewer := .make feed (stateAfter feed first history) data
    (¬ Jammed mode first history data → Recovers mode a) ∧
      (Jammed mode first history data →
        a.step = ⟨.error (.buffer (.full rowWidth)), a.before, []⟩) := by
  intro first a
  have hfirst := kept_start mode timeFormat startTime clock output
  have hkept := kept_stateAfter hfirst.unsettled history
  have hfresh : ¬ first.HoldsFullRow := by
    rintro ⟨row, hrow, hfull⟩
    have hroom := hfirst.settled trivial row hrow
    rw [← (hfirst.sound.row_le row hrow).1] at hroom
    exact Nat.not_le.mpr hroom (of_decide_eq_true hfull)
  have hjammed : Jammed mode first history data ↔
      mode = .hex ∧ data ≠ [] ∧ a.before.HoldsFullRow := by
    refine and_congr_right fun hmode => and_congr_right fun _ => ?_
    have hfull := holdsFullRow_stateAfter_iff hfirst.unsettled hmode history
    exact (hfull.trans (or_iff_right hfresh)).symm
  rw [hjammed]
  constructor
  · exact recovers hkept
  · rintro ⟨hmode, hdata, hfull⟩
    obtain ⟨row, hview, hcapacity, _⟩ := hkept.exists_row hmode
    exact run_feed_of_isFull hview hcapacity ((holdsFullRow_iff hview).mp hfull) hdata

/-- A row that is refused before it is full does no harm. One that is refused when it is full does,
even though nothing is refused any more. -/
theorem feed_after_refusals_of_rows :
    let output : Output := ⟨[.error (.raised .system "busy")], []⟩
    let first := start .hex none false (.ofReadings []) output
    let short : List (List UInt8) := [[65, 65]]
    let long : List (List UInt8) := [List.replicate rowWidth 65]
    ¬ Jammed .hex first short [66] ∧ Jammed .hex first long [66] ∧
      ((feed [66]).run (stateAfter feed first short)).outcome = .ok () ∧
      ((feed [66]).run (stateAfter feed first long)).outcome =
        .error (.buffer (.full rowWidth)) := by
  intro output first short long
  have hkept : ¬ Jammed .hex first short [66] := by
    rintro ⟨_, _, earlier, hmem, hloses⟩
    obtain rfl := List.mem_singleton.mp hmem
    exact absurd hloses.unwritten (by decide)
  have hjammed : Jammed .hex first long [66] := by
    refine ⟨rfl, by decide, _, List.mem_singleton_self _, ⟨?_, ?_⟩⟩
    · decide +kernel
    · decide +kernel
  have hshort := feed_after_refusals .hex none false (.ofReadings []) output short [66]
  have hlong := feed_after_refusals .hex none false (.ofReadings []) output long [66]
  refine ⟨hkept, hjammed, ?_, ?_⟩
  · exact (hshort.1 hkept).ends_well (by decide) rfl
  · exact congrArg Step.outcome (hlong.2 hjammed)

/-- A viewer that was fed a full row of bytes while its output refused one write. -/
def afterRefusedRow : Viewer :=
  stateAfter feed (start .hex none false (.ofReadings []) ⟨[.error (.raised .system "busy")], []⟩)
    [List.replicate rowWidth 65]

/-- Nothing is refused any more, and yet the next batch fails. -/
theorem full_row_refused_jams :
    afterRefusedRow.refusals = [] ∧
      ((feed [66]).run afterRefusedRow).outcome = .error (.buffer (.full rowWidth)) := by
  have hkept := kept_stateAfter (kept_start .hex none false (.ofReadings [])
    ⟨[.error (.raised .system "busy")], []⟩).unsettled [List.replicate rowWidth 65]
  rw [← afterRefusedRow] at hkept
  obtain ⟨row, hview, hcapacity, _⟩ := hkept.exists_row rfl
  have hfull : afterRefusedRow.display.view.row?.any ReceptionBuffer.isFull := by decide +kernel
  rw [hview] at hfull
  refine ⟨by decide +kernel, ?_⟩
  rw [run_feed_of_isFull hview hcapacity hfull (List.cons_ne_nil _ _)]

end SerialTerminal.Viewer
