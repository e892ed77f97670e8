import Mathlib.Data.List.Basic
import Mathlib.Data.Set.Function
import SerialTerminal.Proofs.Display.Demultiplexing
import SerialTerminal.Proofs.Display.Screen
import SerialTerminal.Proofs.HexDump.Reading
import SerialTerminal.Proofs.Slip.FrameStream

/-!
# Records of frames

Where everything belongs to frames, a viewer writes the rows of each completed frame and nothing
else. What it writes is a record of the frames: from the lines alone, by their labels and the
columns of digits, the frames can be read back (`readRecord_frameRecord`). The label stands only in
front of the first row of a frame, so a frame may fill its last row without running into the next.
-/

namespace SerialTerminal.Viewer

open Slip
open FrameDecoder (defaultCapacity)

/-- What is written of completed frames. -/
def frameRecord (frames : List (List UInt8)) : List UInt8 :=
  frames.flatMap fun frame => (HexDump.rows frameLabel frame).flatMap rowLine

/-- A row of a record, without its label. -/
inductive RecordRow where
  /-- The first row of a frame. -/
  | first (bytes : List UInt8)
  | further (bytes : List UInt8)

/-- The blanks in front of the further rows of a frame. -/
def blankLabel : List Char := List.replicate frameLabel.length ' '

/-- The row that a line of a record shows. -/
def readRow? : List Char → Option RecordRow
  | '\r' :: row =>
    let bytes := HexDump.readBytes (row.drop frameLabel.length)
    if frameLabel.isPrefixOf row then some (.first bytes)
    else if blankLabel.isPrefixOf row then some (.further bytes)
    else none
  | _ => none

/-- The frames that rows make up, with the bytes in front of the first of them. -/
def assemble : List RecordRow → List UInt8 × List (List UInt8)
  | [] => ([], [])
  | .first bytes :: rest =>
    let (more, frames) := assemble rest
    ([], (bytes ++ more) :: frames)
  | .further bytes :: rest =>
    let (more, frames) := assemble rest
    (bytes ++ more, frames)

/-- The frames that a record shows. -/
def readRecord (record : List UInt8) : List (List UInt8) :=
  (assemble (((Text.ofLatin1 record).splitOn '\n').filterMap readRow?)).2

section Reading

private theorem length_blankLabel : blankLabel.length = frameLabel.length := rfl

/-- The rows of a frame, as a record shows them. -/
def frameRows (frame : List UInt8) : List RecordRow :=
  match HexDump.chunks frame with
  | [] => []
  | chunk :: others => .first chunk :: others.map .further

private theorem readRow?_first {chunk : List UInt8} (h : chunk.length ≤ HexDump.rowWidth) :
    readRow? ('\r' :: HexDump.layout frameLabel chunk) = some (.first chunk) := by
  have hlabel : frameLabel.isPrefixOf (frameLabel ++ HexDump.layout [] chunk) = true := rfl
  rw [readRow?, HexDump.layout_eq_append, if_pos hlabel, List.drop_left' rfl,
    HexDump.readBytes_layout h]

private theorem readRow?_further {chunk : List UInt8} (h : chunk.length ≤ HexDump.rowWidth) :
    readRow? ('\r' :: HexDump.layout blankLabel chunk) = some (.further chunk) := by
  have hlabel : frameLabel.isPrefixOf (blankLabel ++ HexDump.layout [] chunk) = false := rfl
  have hblank : blankLabel.isPrefixOf (blankLabel ++ HexDump.layout [] chunk) = true := rfl
  rw [readRow?, HexDump.layout_eq_append, if_neg (by rw [hlabel]; decide), if_pos hblank,
    List.drop_left' length_blankLabel, HexDump.readBytes_layout h]

/-- Every row of a frame is read from its line. -/
theorem filterMap_readRow?_rows (frame : List UInt8) :
    ((HexDump.rows frameLabel frame).map ('\r' :: ·)).filterMap readRow? = frameRows frame := by
  have hlength := fun chunk (h : chunk ∈ HexDump.chunks frame) => HexDump.length_le_of_mem_chunks h
  rw [HexDump.rows, frameRows]
  cases hc : HexDump.chunks frame with
  | nil => rfl
  | cons chunk others =>
    rw [hc] at hlength
    have hothers : (others.map fun chunk => '\r' :: HexDump.layout blankLabel chunk).filterMap
        readRow? = others.map .further := by
      rw [List.filterMap_map]
      apply List.filterMap_eq_map_iff_forall_eq_some.mpr
      intro c hm
      exact readRow?_further (hlength c (List.mem_cons_of_mem chunk hm))
    have hfirst := readRow?_first (hlength chunk List.mem_cons_self)
    simp only [List.map_cons, List.map_map, List.filterMap_cons, hfirst]
    exact congrArg _ hothers

private theorem assemble_further (chunks : List (List UInt8)) (rest : List RecordRow) :
    assemble (chunks.map .further ++ rest) =
      (chunks.flatten ++ (assemble rest).1, (assemble rest).2) := by
  induction chunks with
  | nil => rfl
  | cons chunk others ih =>
    rw [List.map_cons, List.cons_append, assemble, ih, List.flatten_cons, List.append_assoc]

/-- The rows of frames make up the frames. -/
theorem assemble_frameRows {frames : List (List UInt8)} (h : ∀ frame ∈ frames, frame ≠ []) :
    assemble (frames.flatMap frameRows) = ([], frames) := by
  induction frames with
  | nil => rfl
  | cons frame rest ih =>
    have hrest := ih fun f hf => h f (List.mem_cons_of_mem frame hf)
    have hflatten := HexDump.flatten_chunks frame
    rw [List.flatMap_cons, frameRows]
    cases hc : HexDump.chunks frame with
    | nil =>
      rw [hc] at hflatten
      exact absurd hflatten.symm (h frame List.mem_cons_self)
    | cons chunk others =>
      rw [hc, List.flatten_cons] at hflatten
      simp only [List.cons_append, assemble, assemble_further, hrest, List.append_nil, hflatten]

/-- Lines that hold no line feed are found between the line feeds. -/
theorem splitOn_lines {lines : List (List Char)} (h : ∀ line ∈ lines, '\n' ∉ line) :
    (lines.flatMap (· ++ ['\n'])).splitOn '\n' = lines ++ [[]] := by
  induction lines with
  | nil => rfl
  | cons line rest ih =>
    have hrest := ih fun l hl => h l (List.mem_cons_of_mem line hl)
    rw [List.flatMap_cons, List.append_assoc, List.singleton_append,
      List.splitOn_append_cons_self_of_not_mem (h line List.mem_cons_self), hrest,
      List.cons_append]

private theorem frameRecord_eq (frames : List (List UInt8)) :
    frameRecord frames = Text.latin1
      (((frames.flatMap (HexDump.rows frameLabel)).map ('\r' :: ·)).flatMap (· ++ ['\n'])) := by
  simp only [frameRecord, Text.latin1, List.map_flatMap, List.flatMap_map, List.flatMap_assoc]
  rfl

private theorem lineFeed_not_mem_row {frame : List UInt8} {row : List Char}
    (h : row ∈ HexDump.rows frameLabel frame) : '\n' ∉ '\r' :: row := by
  have hlayout (label : List Char) (hl : '\n' ∉ label) (chunk : List UInt8) :
      '\n' ∉ '\r' :: HexDump.layout label chunk := by
    intro hm
    rcases List.mem_cons.mp hm with hm | hm
    · exact absurd hm (by decide)
    · rcases HexDump.mem_layout hm with hm | hm
      · exact hl hm
      · exact absurd hm (by decide)
  obtain ⟨chunk, _, rfl | rfl⟩ := HexDump.mem_rows h
  · exact hlayout _ (by decide) chunk
  · exact hlayout _ (by decide) chunk

/-- A record of frames that are not empty shows the frames, and no others. -/
theorem readRecord_frameRecord {frames : List (List UInt8)} (h : ∀ frame ∈ frames, frame ≠ []) :
    readRecord (frameRecord frames) = frames := by
  let lines := (frames.flatMap (HexDump.rows frameLabel)).map ('\r' :: ·)
  have hline : ∀ line ∈ lines,
      '\n' ∉ line ∧ ∀ c ∈ line ++ ['\n'], Text.IsLatin1 c := by
    intro line hl
    obtain ⟨row, hrow, rfl⟩ := List.mem_map.mp hl
    obtain ⟨frame, _, hrow⟩ := List.mem_flatMap.mp hrow
    exact ⟨lineFeed_not_mem_row hrow, isLatin1_rowLine hrow⟩
  have htext : ∀ c ∈ lines.flatMap (· ++ ['\n']), Text.IsLatin1 c := by
    intro c hc
    obtain ⟨line, hl, hc⟩ := List.mem_flatMap.mp hc
    exact (hline line hl).2 c hc
  have hrows : lines.filterMap readRow? = frames.flatMap frameRows := by
    simp only [lines, List.map_flatMap, List.filterMap_flatMap, filterMap_readRow?_rows]
  have hlast : [[]].filterMap readRow? = [] := rfl
  rw [readRecord, frameRecord_eq, Text.ofLatin1_latin1 htext,
    splitOn_lines fun line hl => (hline line hl).1, List.filterMap_append, hrows, hlast,
    List.append_nil, assemble_frameRows h]

end Reading

section Writing

variable {v : Viewer} {frames : FrameDecoder}

/-- Where everything belongs to frames each byte goes to the frame decoder, and what is shown are
its reactions. -/
theorem shows_exclusive (h : v.output.Accepts) (hv : v.display.view = .slip .exclusive frames)
    (stream : List UInt8) :
    Shows (Act.forEach receive stream) v (.slip .exclusive (frames.feedAll stream).1)
      ((frames.feedAll stream).2.flatMap (answerTo .exclusive)) := by
  induction stream generalizing v frames with
  | nil =>
    rw [FrameDecoder.feedAll_nil, ← hv]
    exact shows_done v
  | cons b rest ih =>
    have hr : receiveIn v.display.view b = receiveFramed .exclusive frames b := by
      rw [hv, receiveIn, if_neg fun hx => hx.1 rfl]
    have hb := shows_receiveFramed h .exclusive frames b
    rw [← hr] at hb
    exact hb.receive.bind (ih (h.after _) rfl)

/-- The reactions write the record of the payloads. -/
theorem shownBytes_answers (reactions : List Reaction) :
    (reactions.flatMap (answerTo .exclusive)).flatMap Event.shownBytes =
      frameRecord (payloads reactions) := by
  have hanswer (x : Reaction) :
      (answerTo .exclusive x).flatMap Event.shownBytes = frameRecord x.payload?.toList := by
    cases x with
    | silent | overflow => rfl
    | payload frame =>
      have hp : FramePolicy.exclusive ≠ .hidden := by decide
      simp [answerTo, frameLines, hp, Reaction.payload?, frameRecord, List.flatMap_map,
        Event.shownBytes]
  induction reactions with
  | nil => rfl
  | cons x rest ih =>
    rw [List.flatMap_cons, List.flatMap_append, hanswer, ih, payloads_cons, frameRecord,
      frameRecord, frameRecord, List.flatMap_append]

end Writing

/-- Where everything belongs to frames, what is written is the record of the frames that the frame
decoder completes, however the stream is cut into batches. The frames can be read back from it, for
records of different frames differ. -/
theorem record_of_frames {output : Output} (h : output.Accepts) (timeFormat : Option String)
    (startTime : Bool) (clock : Clock) (batches : List (List UInt8)) :
    let step := (Act.forEach feed batches).run (start .slip timeFormat startTime clock output)
    let run := (FrameDecoder.initial defaultCapacity).feedAll batches.flatten
    let written := step.events.flatMap Event.shownBytes
    step.outcome = .ok () ∧ step.state.display.view = .slip .exclusive run.1 ∧
      written = frameRecord (payloads run.2) ∧ readRecord written = payloads run.2 ∧
      (∀ frames, (∀ frame ∈ frames, frame ≠ []) → readRecord (frameRecord frames) = frames) ∧
      Set.InjOn frameRecord {frames | ∀ frame ∈ frames, frame ≠ []} := by
  intro step run written
  let v := start .slip timeFormat startTime clock output
  have hr : v.Rowless := rfl
  have hv : v.display.view = .slip .exclusive (.initial defaultCapacity) := rfl
  have hs : step = ⟨.ok (), _, _⟩ :=
    (run_forEach_feed hr batches).trans (shows_exclusive h hv batches.flatten)
  have hw : written = frameRecord (payloads run.2) := by
    rw [← shownBytes_answers]
    exact congrArg (fun s => s.events.flatMap Event.shownBytes) hs
  have hread : Set.LeftInvOn readRecord frameRecord {frames | ∀ frame ∈ frames, frame ≠ []} :=
    fun _ hf => readRecord_frameRecord hf
  refine ⟨congrArg Step.outcome hs, ?_, hw, ?_, hread, hread.injOn⟩
  · exact congrArg (fun s => s.state.display.view) hs
  · rw [hw]
    exact hread fun frame hf => FrameDecoder.ne_nil_of_mem_payloads hf

/-- A frame that fills its row, with line ends in it, and a short one behind it. -/
theorem record_of_frames_full_row :
    let full : List UInt8 := List.replicate 10 13 ++ List.replicate 10 10
    let batches := [frameEnd :: full, [], [frameEnd, frameEnd, 83], [frameEnd]]
    let step := (Act.forEach feed batches).run (start .slip none false (.ofReadings []) .willing)
    Output.willing.Accepts ∧
      readRecord (step.events.flatMap Event.shownBytes) = [full, [83]] := by
  intro full batches step
  have hw := Output.accepts_willing
  have hpayloads : payloads ((FrameDecoder.initial defaultCapacity).feedAll batches.flatten).2 =
      [full, [83]] := by decide +kernel
  have hr := (record_of_frames hw none false (.ofReadings []) batches).2.2.2.1
  exact ⟨hw, hr.trans hpayloads⟩

end SerialTerminal.Viewer
