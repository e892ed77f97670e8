import SerialTerminal.Proofs.Display.Batches
import SerialTerminal.Proofs.Display.Screen
import SerialTerminal.Proofs.Display.Showing
import SerialTerminal.Proofs.Display.StampBytes

/-!
# Stamped lines

A viewer that puts stamps in front of lines shows the bytes that it receives, line by line, each
line behind the stamp of the next clock reading, however the bytes are cut into batches. If it was
not started at the beginning of a line, the first line has no stamp (`stamps_lines`). Where the
stamps are seconds, the bytes and the milliseconds can be read back from what is shown, whatever the
bytes are: they may look like stamps themselves.
-/

namespace SerialTerminal

section Lines

/-- The lines of some bytes, each with the line feed that ends it. The last one may have none. -/
def cutLines : List UInt8 → List (List UInt8)
  | [] => []
  | b :: rest =>
    if b = 10 then [b] :: cutLines rest
    else (b :: (cutLines rest).headD []) :: (cutLines rest).tail

/-- Holds of lines: each ends with its only line feed, but for the last one, which may have none as
long as it is not empty. -/
inductive AreLines : List (List UInt8) → Prop where
  | nil : AreLines []
  | last {line : List UInt8} (hne : line ≠ []) (h : 10 ∉ line) : AreLines [line]
  | cons {front : List UInt8} {rest : List (List UInt8)} (h : 10 ∉ front)
      (hrest : AreLines rest) : AreLines ((front ++ [10]) :: rest)

private theorem areLines_cutLines (data : List UInt8) : AreLines (cutLines data) := by
  induction data with
  | nil => exact .nil
  | cons b rest ih =>
    rw [cutLines]
    by_cases hb : b = 10
    · have hcut : AreLines (([] ++ [10]) :: cutLines rest) := .cons List.not_mem_nil ih
      rw [if_pos hb, hb]
      exact hcut
    · rw [if_neg hb]
      have hfront {front : List UInt8} (h : 10 ∉ front) : 10 ∉ b :: front :=
        List.not_mem_cons_of_ne_of_not_mem (Ne.symm hb) h
      generalize cutLines rest = lines at ih
      cases ih with
      | nil => exact .last (List.cons_ne_nil _ _) (hfront List.not_mem_nil)
      | last _ h => exact .last (List.cons_ne_nil _ _) (hfront h)
      | cons h hrest => exact .cons (hfront h) hrest

private theorem flatten_cutLines (data : List UInt8) : (cutLines data).flatten = data := by
  induction data with
  | nil => rfl
  | cons b rest ih =>
    rw [cutLines]
    by_cases hb : b = 10
    · rw [if_pos hb, List.flatten_cons, ih]
      rfl
    · rw [if_neg hb, List.flatten_cons]
      cases hlines : cutLines rest with
      | nil => rw [← ih, hlines]; rfl
      | cons line later => rw [← ih, hlines]; rfl

private theorem cutLines_of_not_mem {line : List UInt8} (hne : line ≠ []) (h : 10 ∉ line) :
    cutLines line = [line] := by
  induction line with
  | nil => exact absurd rfl hne
  | cons b rest ih =>
    have hrest := List.not_mem_of_not_mem_cons h
    rw [cutLines, if_neg (List.ne_of_not_mem_cons h).symm]
    cases rest with
    | nil => rfl
    | cons c later => rw [ih (List.cons_ne_nil _ _) hrest]; rfl

private theorem cutLines_append {front : List UInt8} (h : 10 ∉ front) (rest : List UInt8) :
    cutLines (front ++ [10] ++ rest) = (front ++ [10]) :: cutLines rest := by
  induction front with
  | nil => rfl
  | cons b later ih =>
    rw [List.cons_append, List.cons_append, cutLines, if_neg (List.ne_of_not_mem_cons h).symm,
      ih (List.not_mem_of_not_mem_cons h)]
    rfl

/-- Bytes are cut in one way: into lines that make them up. -/
theorem cutLines_eq_iff {data : List UInt8} {lines : List (List UInt8)} :
    cutLines data = lines ↔ AreLines lines ∧ lines.flatten = data := by
  constructor
  · rintro rfl
    exact ⟨areLines_cutLines data, flatten_cutLines data⟩
  · rintro ⟨h, rfl⟩
    induction h with
    | nil => rfl
    | last hne h => rw [List.flatten_singleton, cutLines_of_not_mem hne h]
    | cons h _ ih => rw [List.flatten_cons, cutLines_append h, ih]

/-- Lines stay lines if something without a line feed is put in front of each. -/
theorem AreLines.zipWith {lines : List (List UInt8)} (h : AreLines lines)
    {stamps : List (List UInt8)} (hstamps : ∀ stamp ∈ stamps, 10 ∉ stamp) :
    AreLines (List.zipWith (· ++ ·) stamps lines) := by
  induction h generalizing stamps with
  | nil =>
    rw [List.zipWith_nil_right]
    exact .nil
  | @last line hne h =>
    cases stamps with
    | nil => exact .nil
    | cons stamp later =>
      have hstamp := hstamps stamp List.mem_cons_self
      rw [List.zipWith_cons_cons, List.zipWith_nil_right]
      exact .last (List.append_ne_nil_of_right_ne_nil _ hne)
        fun hmem => (List.mem_append.mp hmem).elim hstamp h
  | @cons front rest h _ ih =>
    cases stamps with
    | nil => exact .nil
    | cons stamp later =>
      obtain ⟨hstamp, hlater⟩ := List.forall_mem_cons.mp hstamps
      rw [List.zipWith_cons_cons, ← List.append_assoc]
      exact .cons (fun hmem => (List.mem_append.mp hmem).elim hstamp h) (ih hlater)

end Lines

/-- The next readings of a clock. -/
def Clock.readings (clock : Clock) : Nat → List Binary64
  | 0 => []
  | n + 1 => clock.reading :: clock.advance.readings n

/-- So many readings. -/
theorem Clock.length_readings (clock : Clock) (n : Nat) : (clock.readings n).length = n := by
  induction n generalizing clock with
  | zero => rfl
  | succ n ih => rw [readings, List.length_cons, ih]

namespace Viewer

open Act

/-- The front of some bytes that has no stamp: the rest of a line that was begun before. -/
def unstampedFront (atLineStart : Bool) (data : List UInt8) : List UInt8 :=
  if atLineStart then [] else (cutLines data).headD []

/-- The lines of some bytes that have stamps: all that begin in them. -/
def stampedLines (atLineStart : Bool) (data : List UInt8) : List (List UInt8) :=
  if atLineStart then cutLines data else (cutLines data).tail

/-- The line of a byte goes on unless the byte ends it. -/
theorem cutLines_cons (b : UInt8) (rest : List UInt8) :
    cutLines (b :: rest) = (b :: unstampedFront (b = 10) rest) :: stampedLines (b = 10) rest := by
  rw [cutLines, unstampedFront, stampedLines]
  by_cases hb : b = 10
  · simp only [if_pos hb, decide_eq_true hb, ↓reduceIte]
  · simp only [if_neg hb, decide_eq_false hb, Bool.false_eq_true, ↓reduceIte]

/-- What is shown of some bytes: the rest of a line, and lines behind their stamps. -/
def stampedText (atLineStart : Bool) (stamps : List (List UInt8)) (data : List UInt8) :
    List UInt8 :=
  unstampedFront atLineStart data
    ++ (List.zipWith (· ++ ·) stamps (stampedLines atLineStart data)).flatten

private theorem stampedText_inside (stamps : List (List UInt8)) (b : UInt8) (rest : List UInt8) :
    stampedText false stamps (b :: rest) = b :: stampedText (b = 10) stamps rest := by
  simp only [stampedText, unstampedFront, stampedLines, cutLines_cons, Bool.false_eq_true,
    ↓reduceIte, List.headD_cons, List.tail_cons, List.cons_append]

private theorem stampedText_start (stamp : List UInt8) (stamps : List (List UInt8)) (b : UInt8)
    (rest : List UInt8) :
    stampedText true (stamp :: stamps) (b :: rest) =
      stamp ++ b :: stampedText (b = 10) stamps rest := by
  simp only [stampedText, unstampedFront, stampedLines, cutLines_cons, ↓reduceIte,
    List.zipWith_cons_cons, List.flatten_cons, List.nil_append, List.append_assoc,
    List.cons_append]

/-- Says whether a line begins behind some bytes. -/
def endsLine (atLineStart : Bool) (data : List UInt8) : Bool :=
  data.foldl (fun _ b => b = 10) atLineStart

/-- A line begins behind a line feed. -/
theorem endsLine_iff (atLineStart : Bool) (data : List UInt8) :
    endsLine atLineStart data ↔
      (atLineStart ∧ data = []) ∨ data.getLast? = some 10 := by
  rcases List.eq_nil_or_concat data with rfl | ⟨front, b, rfl⟩
  · simp [endsLine]
  · simp [endsLine]

section Run

variable {v : Viewer} {b : UInt8} {stamp : List UInt8}

/-- A viewer whose clock was read. -/
private def ticked (v : Viewer) : Viewer := { v with clock := v.clock.advance }

private theorem shows_receiveDated (hview : v.display.view = .dated false)
    (hout : v.output.Accepts) (b : UInt8) :
    Shows (receiveDated b) v (.dated (b = 10)) [.shown [b]] := by
  have hwrite := shows_write hout [b]
  rw [hview] at hwrite
  by_cases hb : b = 10
  · rw [receiveDated, if_pos hb, decide_eq_true hb]
    exact hwrite.bind (shows_setView _ (.dated true))
  · rw [receiveDated, if_neg hb, decide_eq_false hb]
    exact hwrite.bind (shows_done _)

private theorem ends_writeStamp (hout : v.output.Accepts)
    (hstamp : v.display.stamp.bytes v.clock.reading = .ok stamp) :
    Ends writeStamp v () (v.ticked.after v.display.view [.shown stamp]) [.shown stamp] := by
  rw [Ends, run_writeStamp, hstamp]
  exact shows_write (v := v.ticked) hout stamp

/-- A byte inside a line is shown by itself. -/
private theorem ends_receive_inside (hview : v.display.view = .dated false)
    (hout : v.output.Accepts) (b : UInt8) :
    Ends (receive b) v () (v.after (.dated (b = 10)) [.shown [b]]) [.shown [b]] := by
  refine Shows.receive ?_
  rw [hview]
  exact shows_receiveDated hview hout b

/-- A byte at the beginning of a line is shown behind a stamp. -/
private theorem ends_receive_start (hview : v.display.view = .dated true)
    (hout : v.output.Accepts) (hstamp : v.display.stamp.bytes v.clock.reading = .ok stamp)
    (b : UInt8) :
    Ends (receive b) v () (v.ticked.after (.dated (b = 10)) [.shown stamp, .shown [b]])
      [.shown stamp, .shown [b]] := by
  have hlook : Ends (gets fun v : Viewer => v.display.view) v (.dated true) v [] := by
    rw [← hview]
    rfl
  have hbyte := shows_receiveDated (v := v.ticked.after (.dated false) [.shown stamp]) rfl
    (hout.after _) b
  rw [Shows, after_after] at hbyte
  exact hlook.bind ((ends_writeStamp hout hstamp).bind ((ends_modify _ _).bind hbyte))

/-- Bytes are shown behind the stamps of the next clock readings. -/
private theorem exists_ends_forEach_receive {atLineStart : Bool} (data : List UInt8)
    {stamps : List (List UInt8)} (hview : v.display.view = .dated atLineStart)
    (hout : v.output.Accepts)
    (hstamps : (v.clock.readings (stampedLines atLineStart data).length).map v.display.stamp.bytes =
      stamps.map .ok) :
    ∃ v' es, Ends (forEach receive data) v () v' es ∧
      es.flatMap Event.shownBytes = stampedText atLineStart stamps data ∧
      v'.clock.calls = v.clock.calls + (stampedLines atLineStart data).length ∧
      v'.display.view = .dated (endsLine atLineStart data) := by
  induction data generalizing v atLineStart stamps with
  | nil =>
    refine ⟨v, [], rfl, ?_, ?_, hview⟩
    · cases atLineStart <;> simp [stampedText, unstampedFront, stampedLines, cutLines]
    · cases atLineStart <;> rfl
  | cons b rest ih =>
    cases atLineStart with
    | false =>
      have hbyte := ends_receive_inside hview hout b
      simp only [stampedLines, cutLines_cons, Bool.false_eq_true, ↓reduceIte, List.tail_cons]
        at hstamps ⊢
      obtain ⟨v', es, hrest, hshown, hcalls, hend⟩ :=
        ih (v := v.after (.dated (b = 10)) [.shown [b]]) rfl (hout.after _) hstamps
      refine ⟨v', _, hbyte.bind hrest, ?_, hcalls, hend⟩
      rw [List.flatMap_append, hshown, stampedText_inside]
      rfl
    | true =>
      simp only [stampedLines, cutLines_cons, ↓reduceIte, List.length_cons, Clock.readings,
        List.map_cons] at hstamps ⊢
      obtain ⟨stamp, later, rfl, hstamp, hlater⟩ := List.map_eq_cons_iff.mp hstamps.symm
      have hbyte := ends_receive_start hview hout hstamp.symm b
      obtain ⟨v', es, hrest, hshown, hcalls, hend⟩ :=
        ih (v := v.ticked.after (.dated (b = 10)) [.shown stamp, .shown [b]]) rfl (hout.after _)
          hlater.symm
      refine ⟨v', _, hbyte.bind hrest, ?_, ?_, hend⟩
      · rw [List.flatMap_append, hshown, stampedText_start]
        simp [Event.shownBytes]
      · calc v'.clock.calls
            = v.clock.calls + 1 + (stampedLines (b = 10) rest).length := hcalls
          _ = v.clock.calls + ((stampedLines (b = 10) rest).length + 1) := by omega

end Run

/-- What comes of bytes that are shown with stamps in front of lines. -/
structure Stamped (atLineStart : Bool) (timeFormat : Option String) (startTime : Bool)
    (clock : Clock) (stamps : List (List UInt8)) (data : List UInt8) (step : Step Viewer Unit) :
    Prop where
  outcome : step.outcome = .ok ()
  shown : step.events.flatMap Event.shownBytes = stampedText atLineStart stamps data
  /-- The clock is read when the viewer is made, and then once for each stamp. -/
  calls : step.state.clock.calls = clock.calls + 1 + (stampedLines atLineStart data).length
  mode : step.state.display.view.mode = .startDate ↔
    (atLineStart ∧ data = []) ∨ data.getLast? = some 10
  /-- Where stamps are seconds, the bytes and what each stamp shows are read back. -/
  readable : timeFormat = none → atLineStart →
    let read := (cutLines (step.events.flatMap Event.shownBytes)).map LineStamp.readStamped
    (read.map Prod.snd).flatten = data ∧
      (clock.advance.readings (cutLines data).length).map
          (LineStamp.count startTime clock.reading) =
        (read.map Prod.fst).map .ok

/-- Stamps in seconds are read back from lines that have them. -/
private theorem readStamped_cutLines {startTime : Bool} {start : Binary64}
    {zone : Calendar.Zone} {readings : List Binary64} {stamps : List (List UInt8)}
    {data : List UInt8}
    (hstamps : readings.map (Display.stampFor none startTime start zone).bytes = stamps.map .ok)
    (hlength : readings.length = (cutLines data).length) :
    let read := (cutLines (stampedText true stamps data)).map LineStamp.readStamped
    (read.map Prod.snd).flatten = data ∧
      readings.map (LineStamp.count startTime start) = (read.map Prod.fst).map .ok := by
  obtain ⟨counts, hcounts, rfl⟩ := LineStamp.exists_counts hstamps
  obtain ⟨hlines, hflatten⟩ := cutLines_eq_iff.mp (rfl : cutLines data = cutLines data)
  have hcount : counts.length = (cutLines data).length := by
    rw [← hlength, ← List.length_map (f := LineStamp.count startTime start), hcounts,
      List.length_map]
  have hstamp : ∀ stamp ∈ counts.map fun ms =>
      Text.utf8 (LineStamp.ofMilliseconds (LineStamp.secondsWidth startTime) ms),
      10 ∉ stamp := by
    intro stamp hmem
    obtain ⟨ms, -, rfl⟩ := List.mem_map.mp hmem
    exact LineStamp.lineFeed_not_mem_ofMilliseconds _ ms
  intro read
  have hread : read = counts.zip (cutLines data) := by
    simp only [read, stampedText, unstampedFront, stampedLines, ↓reduceIte, List.nil_append]
    rw [cutLines_eq_iff.mpr ⟨hlines.zipWith hstamp, rfl⟩, List.map_zipWith,
      List.zipWith_map_left]
    simp only [LineStamp.readStamped_append]
    rfl
  rw [hread, List.map_snd_zip (Nat.le_of_eq hcount.symm), List.map_fst_zip (Nat.le_of_eq hcount)]
  exact ⟨hflatten, hcounts⟩

/-- Bytes are shown line by line behind stamps, and stamps in seconds can be read back. -/
theorem stamps_lines (atLineStart : Bool) (timeFormat : Option String) (startTime : Bool)
    (clock : Clock) {output : Output} (hout : output.Accepts) (batches : List (List UInt8))
    {stamps : List (List UInt8)}
    (hstamps : (clock.advance.readings (stampedLines atLineStart batches.flatten).length).map
        (Display.stampFor timeFormat startTime clock.reading clock.zone).bytes = stamps.map .ok) :
    Stamped atLineStart timeFormat startTime clock stamps batches.flatten
      ((forEach feed batches).run
        (start (View.dated atLineStart).mode timeFormat startTime clock output)) := by
  let v := start (View.dated atLineStart).mode timeFormat startTime clock output
  have hview : v.display.view = .dated atLineStart := by cases atLineStart <;> rfl
  obtain ⟨v', es, hrun, hshown, hcalls, hend⟩ :=
    exists_ends_forEach_receive (v := v) batches.flatten hview hout hstamps
  have hrowless : v.Rowless := by rw [Rowless, hview]; rfl
  rw [run_forEach_feed hrowless, hrun]
  exact {
    outcome := rfl
    shown := hshown
    calls := hcalls
    mode := by rw [hend, View.mode_dated_eq_startDate, endsLine_iff]
    readable := by
      rintro rfl rfl
      rw [hshown]
      exact readStamped_cutLines hstamps (Clock.length_readings _ _) }

/-- Two lines behind the time since the start. The second one looks like a stamp itself. -/
theorem stamps_lines_since_start :
    let clock := Clock.ofReadings [.ofRatio false 1 1, .ofRatio false 5 4, .ofRatio false 31 2]
    let batches : List (List UInt8) := [[65], [10, 32], [49, 46]]
    let stamps := [Text.utf8 "   0.250: ".toList, Text.utf8 "  14.500: ".toList]
    Output.willing.Accepts ∧
      (clock.advance.readings (stampedLines true batches.flatten).length).map
        (Display.stampFor none true clock.reading clock.zone).bytes = stamps.map .ok ∧
      Stamped true none true clock stamps batches.flatten
        ((forEach feed batches).run (start .startDate none true clock .willing)) := by
  intro clock batches stamps
  have hfirst : (Display.stampFor none true clock.reading clock.zone).text (.ofRatio false 5 4) =
      .ok "   0.250: ".toList := by decide +kernel
  have hsecond : (Display.stampFor none true clock.reading clock.zone).text (.ofRatio false 31 2) =
      .ok "  14.500: ".toList := by decide +kernel
  have hstamps : (clock.advance.readings (stampedLines true batches.flatten).length).map
      (Display.stampFor none true clock.reading clock.zone).bytes = stamps.map .ok := by
    change [LineStamp.bytes _ (.ofRatio false 5 4), LineStamp.bytes _ (.ofRatio false 31 2)] = _
    rw [LineStamp.bytes, hfirst, LineStamp.bytes, hsecond]
    rfl
  exact ⟨Output.accepts_willing, hstamps,
    stamps_lines true none true clock Output.accepts_willing batches hstamps⟩

/-- A viewer that was started inside a line and receives nothing stays inside the line. -/
theorem inside_line_without_bytes :
    let batches : List (List UInt8) := [[]]
    let step := (forEach feed batches).run (start .date none false (.ofReadings []) .willing)
    ¬ (step.state.display.view.mode = .startDate ↔
      batches.flatten = [] ∨ batches.flatten.getLast? = some 10) := by
  decide

end Viewer

end SerialTerminal
