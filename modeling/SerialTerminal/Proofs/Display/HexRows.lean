import SerialTerminal.Proofs.Display.Representation
import SerialTerminal.Proofs.Display.Screen
import SerialTerminal.Proofs.Display.Showing

/-!
# Rows of digits on a screen

A view of rows writes the row in progress again after every batch, over what it wrote before. So the
bytes that it writes depend on how the stream is cut into batches. The screen does not: after every
batch it shows the full rows of the stream, one in a line, and the bytes behind them in the last
line.

What makes the overwriting safe is that a row in progress only grows: `Drawn` keeps the current line
no wider than the row that is written over it next.
-/

namespace SerialTerminal.Viewer

open HexDump (rowWidth)

/-- The cells of the row of a chunk, without a label. -/
def rowCells (chunk : List UInt8) : List UInt8 := Text.latin1 (HexDump.layout [] chunk)

/-- The cells that show the bytes behind the last full row. Where there are none, nothing is
shown. -/
def partialCells (rest : List UInt8) : List UInt8 := if rest = [] then [] else rowCells rest

/-- Holds of a stream that is cut into the bytes of full rows and what is left behind them. -/
structure RowCut (stream : List UInt8) (full : List (List UInt8)) (rest : List UInt8) : Prop where
  stream_eq : full.flatten ++ rest = stream
  length_full : ∀ chunk ∈ full, chunk.length = rowWidth
  length_rest : rest.length < rowWidth

/-- A stream without bytes has no rows. -/
theorem rowCut_nil : RowCut [] [] [] :=
  ⟨rfl, fun _ h => absurd h List.not_mem_nil, by decide⟩

section Cut

variable {stream rest : List UInt8} {full : List (List UInt8)}

/-- A byte that does not fill the row in progress. -/
theorem RowCut.push (h : RowCut stream full rest) {b : UInt8} (hb : rest.length + 1 < rowWidth) :
    RowCut (stream ++ [b]) full (rest ++ [b]) where
  stream_eq := by rw [← List.append_assoc, h.stream_eq]
  length_full := h.length_full
  length_rest := by rwa [List.length_append]

/-- A byte that fills it. -/
theorem RowCut.fill (h : RowCut stream full rest) {b : UInt8} (hb : rest.length + 1 = rowWidth) :
    RowCut (stream ++ [b]) (full ++ [rest ++ [b]]) [] where
  stream_eq := by
    rw [List.flatten_append, List.flatten_singleton, List.append_nil, ← List.append_assoc,
      h.stream_eq]
  length_full := by
    intro chunk hc
    rcases List.mem_append.mp hc with hc | hc
    · exact h.length_full chunk hc
    · rw [List.mem_singleton.mp hc, List.length_append]
      exact hb
  length_rest := by decide

/-- There is one way to cut a stream. -/
theorem RowCut.unique {full' : List (List UInt8)} {rest' : List UInt8}
    (h : RowCut stream full rest) (h' : RowCut stream full' rest') :
    full = full' ∧ rest = rest' := by
  obtain ⟨he, hf, hr⟩ := h
  obtain ⟨he', hf', hr'⟩ := h'
  induction full generalizing stream full' with
  | nil =>
    cases full' with
    | nil => exact ⟨rfl, he.trans he'.symm⟩
    | cons chunk others =>
      have hl := hf' chunk List.mem_cons_self
      have hlen := congrArg List.length (he.trans he'.symm)
      simp only [List.flatten_nil, List.nil_append, List.flatten_cons, List.length_append] at hlen
      omega
  | cons chunk others ih =>
    have hl := hf chunk List.mem_cons_self
    cases full' with
    | nil =>
      have hlen := congrArg List.length (he.trans he'.symm)
      simp only [List.flatten_nil, List.nil_append, List.flatten_cons, List.length_append] at hlen
      omega
    | cons chunk' others' =>
      have hl' := hf' chunk' List.mem_cons_self
      have ht := he.trans he'.symm
      rw [List.flatten_cons, List.flatten_cons, List.append_assoc, List.append_assoc] at ht
      obtain ⟨rfl, hrest⟩ := List.append_inj ht (hl.trans hl'.symm)
      obtain ⟨rfl, rfl⟩ := ih hrest (fun c hc => hf c (List.mem_cons_of_mem _ hc)) rfl
        fun c hc => hf' c (List.mem_cons_of_mem _ hc)
      exact ⟨rfl, rfl⟩

end Cut

/-- A row has no line end in it. -/
theorem rowCells_ne (chunk : List UInt8) : ∀ b ∈ rowCells chunk, b ≠ 13 ∧ b ≠ 10 := by
  intro b hb
  obtain ⟨c, hc, rfl⟩ := List.mem_map.mp hb
  rcases HexDump.mem_layout hc with hc | ⟨hl, hu⟩
  · exact absurd hc List.not_mem_nil
  · constructor
    all_goals
      intro he
      have hn := congrArg UInt8.toNat he
      rw [UInt8.toNat_ofNat', Nat.mod_eq_of_lt (by omega)] at hn
      simp at hn
      omega

/-- The width of a row. -/
theorem length_rowCells {chunk : List UInt8} (h : chunk.length ≤ rowWidth) :
    (rowCells chunk).length = 47 + chunk.length := by
  rw [rowCells, Text.latin1, List.length_map, HexDump.length_layout [] h, List.length_nil,
    Nat.zero_add]

/-- One byte more makes a row wider. -/
theorem length_partialCells_le {rest : List UInt8} (h : rest.length < rowWidth) (b : UInt8) :
    (partialCells rest).length ≤ (rowCells (rest ++ [b])).length := by
  have hl : (rest ++ [b]).length = rest.length + 1 := List.length_append
  rw [length_rowCells (by omega), hl, partialCells]
  split
  · exact Nat.zero_le _
  · rw [length_rowCells (by omega)]
    omega

/-- Holds of the row in progress and the screen after a stream: the full rows stand above, the other
bytes are in the row, and nothing in the current line will outlast their cells. -/
structure Drawn (stream : List UInt8) (full : List (List UInt8)) (row : ReceptionBuffer)
    (screen : Screen) : Prop where
  cut : RowCut stream full row.toList
  capacity : row.capacity = rowWidth
  above : screen.above = full.map rowCells
  narrow : screen.line.length ≤ (partialCells row.toList).length

/-- The screen on which the row in progress was just written. -/
def settled (full : List (List UInt8)) (rest : List UInt8) : Screen :=
  ⟨full.map rowCells, partialCells rest, []⟩

/-- Before any byte the screen is blank. -/
theorem drawn_blank : Drawn [] [] (.empty rowWidth) .blank := ⟨rowCut_nil, rfl, rfl, Nat.le_refl _⟩

section Step

variable {v : Viewer} {row : ReceptionBuffer} {stream : List UInt8} {full : List (List UInt8)}
  {screen : Screen}

/-- A row is written over the line. -/
theorem shows_writeRow (h : v.output.Accepts) (hl : row.toList.length ≤ rowWidth)
    {lineEnd : List Char} (he : ∀ c ∈ lineEnd, Text.IsLatin1 c) :
    Shows (writeRow row lineEnd) v v.display.view
      [.shown (13 :: rowCells row.toList ++ Text.latin1 lineEnd)] := by
  have hb : Text.latin1 ('\r' :: HexDump.layout [] row.toList ++ lineEnd) =
      13 :: rowCells row.toList ++ Text.latin1 lineEnd := List.map_append
  rw [writeRow_eq hl he, hb]
  exact shows_write h _

private theorem append_of_not_full (hd : Drawn stream full row screen) (b : UInt8) :
    row.append b = .ok (row.push b) := by
  have hl := hd.cut.length_rest
  rw [ReceptionBuffer.length_toList] at hl
  rw [ReceptionBuffer.append, ReceptionBuffer.isFull, hd.capacity,
    decide_eq_false (Nat.not_le.mpr hl), if_neg Bool.false_ne_true]

private theorem isFull_push (hd : Drawn stream full row screen) (b : UInt8) :
    (row.push b).isFull = decide (rowWidth ≤ row.toList.length + 1) := by
  rw [ReceptionBuffer.isFull, ReceptionBuffer.capacity_push, hd.capacity,
    ← ReceptionBuffer.length_toList, ReceptionBuffer.toList_push, List.length_append]
  rfl

/-- A byte that does not fill the row is kept for later. -/
theorem shows_receiveHex_push (hd : Drawn stream full row screen) {b : UInt8}
    (hb : row.toList.length + 1 < rowWidth) :
    Shows (receiveHex row b) v (.hex (row.push b)) [] := by
  rw [receiveHex, append_of_not_full hd b]
  refine (shows_setView v (.hex (row.push b))).bind ?_
  rw [isFull_push hd b, decide_eq_false (Nat.not_le.mpr hb), if_neg Bool.false_ne_true]
  exact shows_done _

/-- A byte that fills the row makes it a line of its own. -/
theorem shows_receiveHex_fill (h : v.output.Accepts) (hd : Drawn stream full row screen) {b : UInt8}
    (hb : row.toList.length + 1 = rowWidth) :
    Shows (receiveHex row b) v (.hex (row.push b).clear)
      [.shown (13 :: rowCells (row.toList ++ [b]) ++ [10])] := by
  have hl : (row.push b).toList.length ≤ rowWidth := by
    rw [ReceptionBuffer.toList_push, List.length_append]
    exact Nat.le_of_eq hb
  rw [receiveHex, append_of_not_full hd b]
  refine (shows_setView v (.hex (row.push b))).bind ?_
  rw [isFull_push hd b, decide_eq_true (Nat.le_of_eq hb.symm), if_pos rfl,
    ← ReceptionBuffer.toList_push]
  have he : ∀ c ∈ ['\n'], Text.IsLatin1 c := Text.isLatin1_of_all (by decide)
  have hu : (v.after (.hex (row.push b)) []).output.Accepts := h.after []
  exact (shows_writeRow hu hl he).bind (shows_setView _ _)

/-- A byte takes row and screen a step on. -/
theorem exists_shows_receive (h : v.output.Accepts) (hv : v.display.view = .hex row)
    (hd : Drawn stream full row screen) (b : UInt8) :
    ∃ full' row' es, Shows (receive b) v (.hex row') es ∧
      Drawn (stream ++ [b]) full' row' (screen.draw es) := by
  have hl := length_partialCells_le hd.cut.length_rest b
  have hn := Nat.le_trans hd.narrow hl
  rcases Nat.lt_or_eq_of_le (Nat.succ_le_of_lt hd.cut.length_rest) with hb | hb
  · refine ⟨full, row.push b, [], .receive ?_, ?_⟩
    · rw [hv]
      exact shows_receiveHex_push hd hb
    · refine ⟨?_, hd.capacity, hd.above, ?_⟩
      · rw [ReceptionBuffer.toList_push]
        exact hd.cut.push hb
      · rw [ReceptionBuffer.toList_push, partialCells, if_neg (by simp)]
        exact hn
  · refine ⟨full ++ [row.toList ++ [b]], (row.push b).clear,
      [.shown (13 :: rowCells (row.toList ++ [b]) ++ [10])], .receive ?_, ?_⟩
    · rw [hv]
      exact shows_receiveHex_fill h hd hb
    · rw [Screen.draw_shown, Screen.typeAll_overwrite_line (rowCells_ne _) hn]
      refine ⟨hd.cut.fill hb, hd.capacity, ?_, Nat.le_refl 0⟩
      rw [hd.above, List.map_append]
      rfl

/-- So do the bytes of a batch. -/
theorem exists_shows_forEach_receive (h : v.output.Accepts) (hv : v.display.view = .hex row)
    (hd : Drawn stream full row screen) (data : List UInt8) :
    ∃ full' row' es, Shows (Act.forEach receive data) v (.hex row') es ∧
      Drawn (stream ++ data) full' row' (screen.draw es) := by
  induction data generalizing v row stream full screen with
  | nil =>
    refine ⟨full, row, [], ?_, by rwa [List.append_nil]⟩
    rw [← hv]
    exact shows_done v
  | cons b rest ih =>
    obtain ⟨full', row', es, hs, hd'⟩ := exists_shows_receive h hv hd b
    obtain ⟨full'', row'', fs, hs', hd''⟩ := ih (h.after es) (view_after v (.hex row') es) hd'
    refine ⟨full'', row'', es ++ fs, hs.bind hs', ?_⟩
    rwa [List.append_assoc, List.singleton_append, ← Screen.draw_append] at hd''

/-- A row without bytes is not written at the end of a batch, any other is. -/
private theorem Shows.redraw {a : View} {es : List Event} (hv : v.display.view = .hex row)
    (h : Shows (if row.isEmpty then Act.done () else writeRow row []) v a es) :
    Shows redraw v a es := by
  rcases v with ⟨⟨view, stamp⟩, clock, output⟩
  obtain rfl : view = .hex row := hv
  exact h

/-- The end of a batch settles the screen. -/
theorem exists_shows_redraw (h : v.output.Accepts) (hv : v.display.view = .hex row)
    (hd : Drawn stream full row screen) :
    ∃ es, Shows redraw v (.hex row) es ∧ screen.draw es = settled full row.toList := by
  have hn := hd.narrow
  by_cases hr : row.toList = []
  · have he : row.isEmpty = true := by
      rw [ReceptionBuffer.isEmpty, ← ReceptionBuffer.length_toList, hr]
      rfl
    rw [partialCells, if_pos hr, List.length_nil] at hn
    have hs : screen = settled full row.toList := by
      obtain ⟨hleft, hright⟩ :=
        List.append_eq_nil_iff.mp (List.length_eq_zero_iff.mp (Nat.le_zero.mp hn))
      rcases screen with ⟨above, left, right⟩
      obtain rfl : left = [] := hleft
      obtain rfl : right = [] := hright
      rw [settled, partialCells, if_pos hr, ← hd.above]
    refine ⟨[], .redraw hv ?_, hs⟩
    rw [if_pos he, ← hv]
    exact shows_done v
  · have he : ¬ row.isEmpty = true := by
      rw [ReceptionBuffer.isEmpty, ← ReceptionBuffer.length_toList, decide_eq_true_eq,
        List.length_eq_zero_iff]
      exact hr
    rw [partialCells, if_neg hr] at hn
    refine ⟨[.shown (13 :: rowCells row.toList)], .redraw hv ?_, ?_⟩
    · have hend : ∀ c ∈ ([] : List Char), Text.IsLatin1 c := fun _ hc => absurd hc List.not_mem_nil
      have hs := shows_writeRow h (Nat.le_of_lt hd.cut.length_rest) hend
      rw [if_neg he, ← hv]
      rwa [Text.latin1, List.map_nil, List.append_nil] at hs
    · rw [Screen.draw_shown, Screen.typeAll_overwrite (rowCells_ne _) hn, settled, partialCells,
        if_neg hr, hd.above]

/-- A settled screen still shows what the row in progress shows. -/
theorem drawn_settled (hd : Drawn stream full row screen) :
    Drawn stream full row (settled full row.toList) :=
  ⟨hd.cut, hd.capacity, rfl, Nat.le_of_eq (congrArg List.length (List.append_nil _))⟩

/-- A batch takes row and screen on and leaves the screen settled. -/
theorem exists_shows_feed (h : v.output.Accepts) (hv : v.display.view = .hex row)
    (hd : Drawn stream full row screen) (data : List UInt8) :
    ∃ full' row' es, Shows (feed data) v (.hex row') es ∧
      Drawn (stream ++ data) full' row' (screen.draw es) ∧
      screen.draw es = settled full' row'.toList := by
  obtain ⟨full', row', es, hs, hd'⟩ := exists_shows_forEach_receive h hv hd data
  obtain ⟨fs, hr, hf⟩ := exists_shows_redraw (h.after es) (view_after v (.hex row') es) hd'
  have hdraw : screen.draw (es ++ fs) = settled full' row'.toList := by
    rw [Screen.draw_append, hf]
  refine ⟨full', row', es ++ fs, hs.bind hr, ?_, hdraw⟩
  rw [hdraw]
  exact drawn_settled hd'

/-- So do any number of batches from a settled screen on. -/
theorem exists_shows_forEach_feed (h : v.output.Accepts) (hv : v.display.view = .hex row)
    (hd : Drawn stream full row screen) (hs : screen = settled full row.toList)
    (batches : List (List UInt8)) :
    ∃ full' row' es, Shows (Act.forEach feed batches) v (.hex row') es ∧
      Drawn (stream ++ batches.flatten) full' row' (screen.draw es) ∧
      screen.draw es = settled full' row'.toList := by
  induction batches generalizing v row stream full screen with
  | nil =>
    refine ⟨full, row, [], ?_, by rwa [List.flatten_nil, List.append_nil], hs⟩
    rw [← hv]
    exact shows_done v
  | cons data rest ih =>
    obtain ⟨full', row', es, hf, hd', hs'⟩ := exists_shows_feed h hv hd data
    obtain ⟨full'', row'', fs, hr, hd'', hs''⟩ :=
      ih (h.after es) (view_after v (.hex row') es) hd' hs'
    rw [← Screen.draw_append, List.append_assoc, ← List.flatten_cons] at hd''
    rw [← Screen.draw_append] at hs''
    exact ⟨full'', row'', es ++ fs, hf.bind hr, hd'', hs''⟩

end Step

/-- After every batch the screen shows the full rows of all bytes so far, one in a line, and the
bytes behind them in the current line with nothing else in it. Those bytes are what the view holds.
Nothing fails, however the bytes are cut into batches. -/
theorem screen_shows_rows {output : Output} (h : output.Accepts) (timeFormat : Option String)
    (startTime : Bool) (clock : Clock) (batches : List (List UInt8)) :
    let step := (Act.forEach feed batches).run (start .hex timeFormat startTime clock output)
    step.outcome = .ok () ∧
      ∃ full row, RowCut batches.flatten full row.toList ∧ step.state.display.view = .hex row ∧
        row.capacity = rowWidth ∧
        Screen.blank.draw step.events = ⟨full.map rowCells, partialCells row.toList, []⟩ := by
  intro step
  have hv : (start .hex timeFormat startTime clock output).display.view = .hex (.empty rowWidth) :=
    rfl
  obtain ⟨full, row, es, hs, hd, hdraw⟩ :=
    exists_shows_forEach_feed h hv drawn_blank rfl batches
  have hstep : step = ⟨.ok (), _, es⟩ := hs
  rw [hstep]
  exact ⟨rfl, full, row, hd.cut, rfl, hd.capacity, hdraw⟩

/-- Three bytes, a batch without any, and twenty more: they end the row that was written twice and
begin another one. -/
theorem screen_shows_rows_redrawn :
    let batches : List (List UInt8) := [[1, 2, 65], [], List.replicate 20 66]
    let v := start .hex none false (.ofReadings []) .willing
    let first : List UInt8 := [1, 2, 65] ++ List.replicate 17 66
    Output.willing.Accepts ∧
      Screen.blank.draw ((Act.forEach feed batches).run v).events =
        ⟨[rowCells first], rowCells [66, 66, 66], []⟩ := by
  intro batches v first
  have hw := Output.accepts_willing
  obtain ⟨_, full, row, hc, _, _, hs⟩ :=
    screen_shows_rows hw none false (.ofReadings []) batches
  have hcut : RowCut batches.flatten [first] [66, 66, 66] := ⟨rfl, by decide, by decide⟩
  obtain ⟨hfull, hrow⟩ := hc.unique hcut
  rw [hfull, hrow] at hs
  exact ⟨hw, hs⟩

end SerialTerminal.Viewer
