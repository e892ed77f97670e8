import SerialTerminal.Proofs.DecimalColumns
import SerialTerminal.Proofs.Display.StampedLines

/-!
# Streams in decimal columns

A viewer that shows bytes in decimal writes the columns of its stream, however the stream is cut
into batches. The column that it remembers is the position in the line, so that a batch goes on
where the one before it stopped (`shows_columns`).
-/

namespace SerialTerminal.Viewer

open Act DecimalColumns

section Step

variable {v : Viewer} {index : Nat}

/-- A byte is written as the column of its position. -/
theorem exists_shows_receive_decimal (hout : v.output.Accepts)
    (hview : v.display.view = .decimal (index % lineWidth)) (b : UInt8) :
    ∃ es, Shows (receive b) v (.decimal ((index + 1) % lineWidth)) es ∧
      es.flatMap Event.shownBytes = column b ++ lineEnd index := by
  have hlt : index % lineWidth < lineWidth := Nat.mod_lt index (by decide)
  have hcell : Shows (writeText (cell b.toNat)) v v.display.view [.shown (column b)] :=
    latin1_cell b ▸ shows_writeText hout (isLatin1_cell b)
  by_cases hlast : index % lineWidth + 1 < lineWidth
  · have hnext : (index + 1) % lineWidth = index % lineWidth + 1 := by
      rw [Nat.add_mod, Nat.mod_eq_of_lt (by decide : 1 < lineWidth), Nat.mod_eq_of_lt hlast]
    refine ⟨[.shown (column b)], .receive ?_, ?_⟩
    · rw [hview, receiveIn, receiveDecimal, if_pos hlast, hnext]
      exact hcell.bind (shows_setView _ _)
    · rw [lineEnd, if_neg (by omega)]
      rfl
  · have hfull : index % lineWidth + 1 = lineWidth := by omega
    have hnext : (index + 1) % lineWidth = 0 := by
      rw [Nat.add_mod, Nat.mod_eq_of_lt (by decide : 1 < lineWidth), hfull, Nat.mod_self]
    refine ⟨[.shown (column b), .shown [10]], .receive ?_, ?_⟩
    · rw [hview, receiveIn, receiveDecimal, if_neg hlast, hnext]
      have hfeed : ∀ c ∈ ['\n'], Text.IsLatin1 c := Text.isLatin1_of_all (by decide)
      have hset := shows_setView (v.after v.display.view [.shown (column b)]) (.decimal 0)
      exact hcell.bind (hset.bind (shows_writeText ((hout.after _).after _) hfeed))
    · rw [lineEnd, if_pos (by omega)]
      rfl

/-- Bytes are written as the columns from their position on. -/
theorem exists_shows_forEach_receive_decimal (hout : v.output.Accepts)
    (hview : v.display.view = .decimal (index % lineWidth)) (data : List UInt8) :
    ∃ es, Shows (forEach receive data) v (.decimal ((index + data.length) % lineWidth)) es ∧
      es.flatMap Event.shownBytes = columnsFrom index data := by
  induction data generalizing v index with
  | nil =>
    refine ⟨[], ?_, rfl⟩
    rw [List.length_nil, Nat.add_zero, ← hview]
    exact shows_done v
  | cons b rest ih =>
    obtain ⟨es, hbyte, hcolumn⟩ := exists_shows_receive_decimal hout hview b
    obtain ⟨fs, hrest, hcolumns⟩ := ih (hout.after es) (view_after v _ es)
    refine ⟨es ++ fs, ?_, ?_⟩
    · rw [List.length_cons, Nat.add_comm rest.length, ← Nat.add_assoc]
      exact hbyte.bind hrest
    · rw [List.flatMap_append, hcolumn, hcolumns, columnsFrom_cons]

end Step

/-- The lines of a stream are those of its pieces. The last one is missing if nothing is left for
it. -/
theorem cutLines_lines {full : List (List UInt8)} {rest : List UInt8}
    (hfull : ∀ piece ∈ full, piece.length = lineWidth) (hrest : rest.length < lineWidth) :
    cutLines (full.flatMap lineOf ++ lineOf rest) =
      full.map lineOf ++ if rest = [] then [] else [lineOf rest] := by
  have hfeed (piece : List UInt8) : 10 ∉ piece.flatMap column := by
    rw [List.mem_flatMap]
    rintro ⟨b, -, hb⟩
    exact lineFeed_not_mem_column b hb
  have hlast : lineOf rest = rest.flatMap column := by
    rw [lineOf, if_neg (Nat.ne_of_lt hrest), List.append_nil]
  induction full with
  | nil =>
    rw [List.flatMap_nil, List.nil_append, List.map_nil, List.nil_append, hlast]
    split
    · next hnil =>
      rw [hnil]
      rfl
    · next hne =>
      obtain ⟨b, later, rfl⟩ := List.exists_cons_of_ne_nil hne
      exact cutLines_eq_iff.mpr ⟨.last (List.cons_ne_nil _ _) (hfeed _), List.flatten_singleton⟩
  | cons piece others ih =>
    obtain ⟨hpiece, hothers⟩ := List.forall_mem_cons.mp hfull
    obtain ⟨hlines, hflatten⟩ := cutLines_eq_iff.mp (ih hothers)
    have hline : lineOf piece = piece.flatMap column ++ [10] := by rw [lineOf, if_pos hpiece]
    refine cutLines_eq_iff.mpr ⟨?_, ?_⟩
    · rw [List.map_cons, List.cons_append, hline]
      exact .cons (hfeed piece) hlines
    · rw [List.map_cons, List.cons_append, List.flatten_cons, hflatten, List.flatMap_cons,
        List.append_assoc]

/-- What comes of a stream that is shown in decimal columns. -/
structure Columned (stream : List UInt8) (step : Step Viewer Unit) : Prop where
  outcome : step.outcome = .ok ()
  view : step.state.display.view = .decimal (stream.length % lineWidth)
  shown : step.events.flatMap Event.shownBytes = columns stream
  /-- All lines have eighteen columns, but for the last one, which may have less. -/
  lines : ∃ (full : List (List UInt8)) (rest : List UInt8), full.flatten ++ rest = stream ∧
    (∀ piece ∈ full, piece.length = lineWidth) ∧ rest.length < lineWidth ∧
      cutLines (step.events.flatMap Event.shownBytes) =
        full.map lineOf ++ if rest = [] then [] else [lineOf rest]
  readable : readColumns (step.events.flatMap Event.shownBytes) = stream

/-- However a stream is cut into batches, its columns are written, and it is read back from them. So
different streams never look alike. -/
theorem shows_columns {output : Output} (hout : output.Accepts) (timeFormat : Option String)
    (startTime : Bool) (clock : Clock) (batches : List (List UInt8)) :
    let run := fun batches =>
      (forEach feed batches).run (start .int timeFormat startTime clock output)
    Columned batches.flatten (run batches) ∧
      ∀ others, (run others).events.flatMap Event.shownBytes =
        (run batches).events.flatMap Event.shownBytes → others.flatten = batches.flatten := by
  intro run
  have hcolumned (batches : List (List UInt8)) : Columned batches.flatten (run batches) := by
    let v := start .int timeFormat startTime clock output
    have hrowless : v.Rowless := rfl
    have hview : v.display.view = .decimal (0 % lineWidth) := rfl
    obtain ⟨es, hshows, hshown⟩ := exists_shows_forEach_receive_decimal hout hview batches.flatten
    change es.flatMap Event.shownBytes = columns batches.flatten at hshown
    obtain ⟨full, rest, hstream, hfull, hrest, hlines⟩ := exists_lines_columns batches.flatten
    have hrun : run batches = _ := (run_forEach_feed hrowless batches).trans hshows
    rw [Nat.zero_add] at hrun
    rw [hrun]
    exact {
      outcome := rfl
      view := rfl
      shown := hshown
      lines := by
        refine ⟨full, rest, hstream, hfull, hrest, ?_⟩
        rw [hshown, hlines]
        exact cutLines_lines hfull hrest
      readable := by
        rw [hshown]
        exact readColumns_columns batches.flatten }
  refine ⟨hcolumned batches, fun others h => ?_⟩
  rw [(hcolumned others).shown, (hcolumned batches).shown] at h
  exact columns_injective h

/-- Nineteen bytes in three batches: the last one stands alone in its line. -/
theorem shows_columns_two_lines :
    let batches : List (List UInt8) := [[0, 255], [], 10 :: List.replicate 16 7]
    let step := (forEach feed batches).run (start .int none false (.ofReadings []) .willing)
    Output.willing.Accepts ∧ step.state.display.view = .decimal 1 ∧
      step.events.flatMap Event.shownBytes =
        Text.latin1 ("000 255 010 007 007 007 007 007 007 007 007 007 007 007 007 007 007 007 \n" ++
          "007 ").toList := by
  intro batches step
  have h : Columned batches.flatten step :=
    (shows_columns Output.accepts_willing none false (.ofReadings []) batches).1
  have hlength : batches.flatten.length % lineWidth = 1 := by decide
  refine ⟨Output.accepts_willing, ?_, ?_⟩
  · rw [h.view, hlength]
  · rw [h.shown]
    decide +kernel

end SerialTerminal.Viewer
