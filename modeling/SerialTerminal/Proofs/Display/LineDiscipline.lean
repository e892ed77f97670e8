import Mathlib.Computability.Language
import SerialTerminal.Proofs.Display.Batches
import SerialTerminal.Proofs.Display.Representation
import SerialTerminal.Proofs.Display.StampBytes

/-!
# Line discipline

A viewer that puts stamps in front of lines keeps to an order of its writes: a stamp, bytes, a line
feed, and again. Its mode says where in this order it is. Whatever the output refuses and whichever
stamps cannot be written, the mode at every moment is that of the last write that succeeded, so no
line has two stamps and none begins without one (`stamps_disciplined`).
-/

namespace SerialTerminal

/-- A write of a viewer that puts stamps in front of lines: a stamp, or a byte that was received. -/
inductive Mark where
  | stamp (written : List UInt8)
  | data (b : UInt8)
deriving DecidableEq, Repr

/-- The parts that writes have in a line. -/
inductive WriteKind where
  | stamp
  | inside
  | lineFeed
deriving DecidableEq, Repr

namespace Mark

/-- The event of a write. -/
def event : Mark → Event
  | .stamp written => .shown written
  | .data b => .shown [b]

/-- The received bytes in a write. -/
def received : Mark → List UInt8
  | .stamp _ => []
  | .data b => [b]

/-- The part of a write in a line. -/
def kind : Mark → WriteKind
  | .stamp _ => .stamp
  | .data b => if b = 10 then .lineFeed else .inside

end Mark

section Words

open Computability

/-- The words of a line: a stamp, any number of bytes, a line feed. -/
def lineWords : Language WriteKind := {[.stamp]} * {[.inside]}∗ * {[.lineFeed]}

/-- Says that writes follow each other as they should, from the beginning of a line or from inside
one, and whether a line begins behind them. -/
inductive Leads : Bool → List Mark → Bool → Prop where
  | nil (atLineStart : Bool) : Leads atLineStart [] atLineStart
  | stamp (written : List UInt8) {rest : List Mark} {atEnd : Bool} (h : Leads false rest atEnd) :
      Leads true (.stamp written :: rest) atEnd
  | data (b : UInt8) {rest : List Mark} {atEnd : Bool} (h : Leads (b = 10) rest atEnd) :
      Leads false (.data b :: rest) atEnd

variable {atLineStart between atEnd : Bool} {marks later : List Mark}

/-- Writes after writes. -/
theorem Leads.append (h : Leads atLineStart marks between) (h' : Leads between later atEnd) :
    Leads atLineStart (marks ++ later) atEnd := by
  induction h with
  | nil => exact h'
  | stamp written _ ih => exact .stamp written (ih h')
  | data b _ ih => exact .data b (ih h')

/-- A line begins behind a line feed. -/
theorem Leads.atEnd_iff (h : Leads atLineStart marks atEnd) :
    atEnd ↔ (atLineStart ∧ marks = []) ∨ marks.getLast? = some (.data 10) := by
  induction h with
  | nil => simp
  | @stamp written rest atEnd _ ih =>
    rw [ih, List.getLast?_cons]
    cases rest with
    | nil => simp
    | cons m rest => simp [List.getLast?_cons]
  | @data b rest atEnd _ ih =>
    rw [ih, List.getLast?_cons]
    cases rest with
    | nil => simp
    | cons m rest => simp [List.getLast?_cons]

/-- What may still come in front of a line, or inside one. -/
private def wordsFrom (atLineStart : Bool) : Language WriteKind :=
  if atLineStart then lineWords∗ else {[.inside]}∗ * {[.lineFeed]} * lineWords∗

private theorem stamp_cons_mem {word : List WriteKind} (h : word ∈ wordsFrom false) :
    .stamp :: word ∈ wordsFrom true := by
  have hmem : [.stamp] ++ word ∈ {[.stamp]} * wordsFrom false := Language.append_mem_mul rfl h
  have hle : {[.stamp]} * wordsFrom false ≤ wordsFrom true :=
    calc {[.stamp]} * ({[.inside]}∗ * {[.lineFeed]} * lineWords∗)
        = lineWords * lineWords∗ := by simp only [lineWords, mul_assoc]
      _ ≤ lineWords∗ := mul_kstar_le_kstar
  exact hle hmem

private theorem inside_cons_mem {word : List WriteKind} (h : word ∈ wordsFrom false) :
    .inside :: word ∈ wordsFrom false := by
  have hmem : [.inside] ++ word ∈ {[.inside]} * wordsFrom false := Language.append_mem_mul rfl h
  have hle : {[.inside]} * wordsFrom false ≤ wordsFrom false :=
    calc {[.inside]} * ({[.inside]}∗ * {[.lineFeed]} * lineWords∗)
        = {[.inside]} * {[.inside]}∗ * ({[.lineFeed]} * lineWords∗) := by
          rw [mul_assoc, mul_assoc]
      _ ≤ {[.inside]}∗ * ({[.lineFeed]} * lineWords∗) := mul_le_mul_left mul_kstar_le_kstar _
      _ = {[.inside]}∗ * {[.lineFeed]} * lineWords∗ := (mul_assoc _ _ _).symm
  exact hle hmem

private theorem lineFeed_cons_mem {word : List WriteKind} (h : word ∈ wordsFrom true) :
    .lineFeed :: word ∈ wordsFrom false := by
  have hend : [.lineFeed] ∈ ({[.inside]}∗ * {[.lineFeed]} : Language WriteKind) :=
    Language.append_mem_mul (Language.nil_mem_kstar _) rfl
  exact Language.append_mem_mul hend h

/-- Writes can be completed to a word. -/
private theorem Leads.exists_append_mem (h : Leads atLineStart marks atEnd) :
    ∃ rest, marks.map Mark.kind ++ rest ∈ wordsFrom atLineStart := by
  induction h with
  | nil atLineStart =>
    cases atLineStart with
    | true => exact ⟨[], Language.nil_mem_kstar _⟩
    | false => exact ⟨[.lineFeed], lineFeed_cons_mem (Language.nil_mem_kstar _)⟩
  | stamp written _ ih =>
    obtain ⟨rest, hrest⟩ := ih
    exact ⟨rest, stamp_cons_mem hrest⟩
  | data b _ ih =>
    obtain ⟨rest, hrest⟩ := ih
    refine ⟨rest, ?_⟩
    rw [List.map_cons, List.cons_append, Mark.kind]
    by_cases hb : b = 10
    · rw [decide_eq_true hb] at hrest
      rw [if_pos hb]
      exact lineFeed_cons_mem hrest
    · rw [decide_eq_false hb] at hrest
      rw [if_neg hb]
      exact inside_cons_mem hrest

end Words

namespace Viewer

open Act Computability

/-- What comes of an act that keeps to the discipline. It was to write some bytes, and wrote as many
of them as it could. Stamps are those of clock readings. -/
structure Marked (stamp : LineStamp) (clock : Clock) (bytes : List UInt8)
    (step : Step Viewer Unit) (marks : List Mark) : Prop where
  events : step.events = marks.map Mark.event
  received : marks.flatMap Mark.received <+: bytes
  complete : step.outcome = .ok () → marks.flatMap Mark.received = bytes
  genuine : ∀ written, .stamp written ∈ marks →
    ∃ n, stamp.bytes (clock.after n).reading = .ok written

/-- Holds of a viewer with a stamp that is in front of a line, or inside one. -/
structure Stands (stamp : LineStamp) (clock : Clock) (atLineStart : Bool) (v : Viewer) : Prop where
  view_eq : v.display.view = .dated atLineStart
  stamp_eq : v.display.stamp = stamp
  clock_eq : ∃ n, v.clock = clock.after n

/-- Holds of a step that keeps to the discipline. -/
private def Disciplined (stamp : LineStamp) (clock : Clock) (atLineStart : Bool)
    (bytes : List UInt8) (step : Step Viewer Unit) : Prop :=
  ∃ marks atEnd, Marked stamp clock bytes step marks ∧ Leads atLineStart marks atEnd ∧
    Stands stamp clock atEnd step.state

section Steps

variable {stamp : LineStamp} {clock : Clock} {atLineStart : Bool} {v : Viewer}
  {bytes later : List UInt8}

/-- Steps one after another keep to the discipline. -/
private theorem disciplined_bind {x y : Act Viewer Unit}
    (hx : Disciplined stamp clock atLineStart bytes (x.run v))
    (hy : ∀ between, (x.run v).outcome = .ok () → Stands stamp clock between (x.run v).state →
      Disciplined stamp clock between later (y.run (x.run v).state)) :
    Disciplined stamp clock atLineStart (bytes ++ later) ((x >>= fun _ => y).run v) := by
  obtain ⟨marks, between, hmarked, hleads, hstands⟩ := hx
  rcases hrun : x.run v with ⟨cause | _, v', es⟩
  · rw [hrun] at hmarked hstands
    rw [run_bind_of_error _ hrun]
    exact ⟨marks, between, ⟨hmarked.events, hmarked.received.trans (List.prefix_append _ _),
      nofun, hmarked.genuine⟩, hleads, hstands⟩
  · rw [hrun] at hmarked hstands hy
    obtain ⟨others, atEnd, hothers, hleads', hstands'⟩ := hy between rfl hstands
    have hall := hmarked.complete rfl
    rw [run_bind_of_ok _ hrun]
    refine ⟨marks ++ others, atEnd, ⟨?_, ?_, fun hok => ?_, fun written hmem => ?_⟩,
      hleads.append hleads', hstands'⟩
    · have hes : es = marks.map Mark.event := hmarked.events
      have hfs := hothers.events
      rw [List.map_append, hes, ← hfs]
    · rw [List.flatMap_append, hall]
      exact (List.prefix_append_right_inj bytes).mpr hothers.received
    · rw [List.flatMap_append, hall, hothers.complete hok]
    · exact (List.mem_append.mp hmem).elim (hmarked.genuine written) (hothers.genuine written)

/-- What comes of a write. -/
private inductive Wrote (v : Viewer) (bytes : List UInt8) : Step Viewer Unit → Prop where
  | refused (cause : Failure) (output : Output) :
      Wrote v bytes ⟨.error cause, { v with output := output }, []⟩
  | shown (output : Output) :
      Wrote v bytes ⟨.ok (), { v with output := output }, [.shown bytes]⟩

private theorem wrote_write (v : Viewer) (bytes : List UInt8) :
    Wrote v bytes ((write bytes).run v) := by
  rcases v with ⟨display, clock, ⟨_ | ⟨_ | _, rest⟩, flushes⟩⟩
  · exact .shown _
  · exact .refused _ _
  · exact .shown _

/-- A step without a write that fails where it stands. -/
private theorem disciplined_of_silent {cause : Failure} {v' : Viewer}
    (hv : Stands stamp clock atLineStart v') :
    Disciplined stamp clock atLineStart bytes ⟨.error cause, v', []⟩ :=
  ⟨[], atLineStart, ⟨rfl, List.nil_prefix, nofun, nofun⟩, .nil atLineStart, hv⟩

/-- A byte inside a line is written, and the line ends with a line feed. -/
private theorem disciplined_receiveDated (hv : Stands stamp clock false v) (b : UInt8) :
    Disciplined stamp clock false [b] ((receiveDated b).run v) := by
  have hwrote := wrote_write v [b]
  rcases hrun : (write [b]).run v with ⟨cause | _, v', es⟩
  · rw [hrun] at hwrote
    rw [receiveDated, run_bind_of_error _ hrun]
    cases hwrote
    exact disciplined_of_silent ⟨hv.view_eq, hv.stamp_eq, hv.clock_eq⟩
  · rw [hrun] at hwrote
    rw [receiveDated, run_bind_of_ok _ hrun]
    cases hwrote with
    | shown output =>
      have hset : ((if b = 10 then setView (.dated true) else pure ()).run
          { v with output := output }) =
            ⟨.ok (), ⟨⟨.dated (b = 10), v.display.stamp⟩, v.clock, output⟩, []⟩ := by
        by_cases hb : b = 10
        · rw [if_pos hb, decide_eq_true hb]
          rfl
        · rw [if_neg hb, decide_eq_false hb, ← hv.view_eq]
          rfl
      rw [hset]
      exact ⟨[.data b], b = 10,
        ⟨rfl, List.prefix_refl _, fun _ => rfl, fun _ hmem => by simp at hmem⟩,
        .data b (.nil _), rfl, hv.stamp_eq, hv.clock_eq⟩

/-- A line is begun: its stamp is written, and then the viewer is inside the line. -/
private theorem disciplined_begin (hv : Stands stamp clock true v) :
    Disciplined stamp clock true []
      ((writeStamp >>= fun _ => setView (.dated false)).run v) := by
  obtain ⟨n, hn⟩ := hv.clock_eq
  have hread : ∃ n, v.clock.advance = clock.after n := ⟨n + 1, congrArg Clock.advance hn⟩
  have hrun := run_writeStamp v
  rw [hv.stamp_eq] at hrun
  cases hbytes : stamp.bytes v.clock.reading with
  | error cause =>
    rw [hbytes] at hrun
    rw [run_bind_of_error _ hrun]
    exact disciplined_of_silent ⟨hv.view_eq, hv.stamp_eq, hread⟩
  | ok written =>
    rw [hbytes] at hrun
    have hwrote := wrote_write { v with clock := v.clock.advance } written
    rcases hwrite : (write written).run { v with clock := v.clock.advance }
      with ⟨cause | _, v', es⟩
    · rw [run_bind_of_error _ (hrun.trans hwrite)]
      rw [hwrite] at hwrote
      cases hwrote
      exact disciplined_of_silent ⟨hv.view_eq, hv.stamp_eq, hread⟩
    · rw [run_bind_of_ok _ (hrun.trans hwrite)]
      rw [hwrite] at hwrote
      cases hwrote with
      | shown output =>
        refine ⟨[.stamp written], false, ⟨rfl, List.nil_prefix, fun _ => rfl, ?_⟩,
          .stamp _ (.nil false), rfl, hv.stamp_eq, hread⟩
        rintro _ hmem
        obtain rfl := Mark.stamp.inj (List.mem_singleton.mp hmem)
        exact ⟨n, hn ▸ hbytes⟩

/-- A byte that is received keeps to the discipline, whatever comes of it. -/
private theorem disciplined_receive (hv : Stands stamp clock atLineStart v) (b : UInt8) :
    Disciplined stamp clock atLineStart [b] ((receive b).run v) := by
  have hrun : (receive b).run v = (receiveIn (.dated atLineStart) b).run v := by
    rw [← hv.view_eq]
    rfl
  rw [hrun]
  cases atLineStart with
  | false => exact disciplined_receiveDated hv b
  | true =>
    rw [receiveIn, ← bind_assoc]
    refine disciplined_bind (disciplined_begin hv) fun between hok hstands => ?_
    -- A line that was begun is one that the viewer is inside of.
    have hbetween : between = false := by
      rcases hbegin : (writeStamp >>= fun _ => setView (.dated false)).run v with ⟨outcome, v', es⟩
      rw [hbegin] at hok hstands
      obtain rfl : outcome = .ok () := hok
      obtain ⟨_, v₁, _, _, _, hset, _⟩ := Ends.of_bind hbegin
      cases hset
      exact (View.dated.inj hstands.view_eq).symm
    subst hbetween
    exact disciplined_receiveDated hstands b

/-- So do the bytes of a batch. -/
private theorem disciplined_forEach (hv : Stands stamp clock atLineStart v) (data : List UInt8) :
    Disciplined stamp clock atLineStart data ((forEach receive data).run v) := by
  induction data generalizing v atLineStart with
  | nil => exact ⟨[], atLineStart, ⟨rfl, List.nil_prefix, fun _ => rfl, nofun⟩, .nil _, hv⟩
  | cons b rest ih =>
    have hall : Disciplined stamp clock atLineStart ([b] ++ rest)
        ((receive b >>= fun _ => forEach receive rest).run v) :=
      disciplined_bind (disciplined_receive hv b) fun _ _ hstands => ih hstands
    exact hall

private theorem Stands.rowless (hv : Stands stamp clock atLineStart v) : v.Rowless := by
  rw [Rowless, hv.view_eq]
  rfl

/-- Batches keep to the discipline together, those that fail included. -/
private theorem exists_marks (hv : Stands stamp clock atLineStart v)
    (batches : List (List UInt8)) :
    ∃ marks atEnd, List.Forall₂ (fun a => Marked stamp clock a.input a.step)
        (attempts feed v batches) marks ∧
      Leads atLineStart marks.flatten atEnd ∧
      Stands stamp clock atEnd (stateAfter feed v batches) := by
  induction batches generalizing v atLineStart with
  | nil => exact ⟨[], atLineStart, .nil, .nil _, hv⟩
  | cons data rest ih =>
    have hdata := disciplined_forEach hv data
    rw [← run_feed hv.rowless] at hdata
    obtain ⟨marks, between, hmarked, hleads, hstands⟩ := hdata
    obtain ⟨later, atEnd, hlater, hleads', hstands'⟩ := ih hstands
    exact ⟨marks :: later, atEnd, .cons hmarked hlater, hleads.append hleads', hstands'⟩

/-- What a run writes are its marks, and the stamps among them are those of clock readings. -/
private theorem flatten_of_marked {run : List (Attempt (List UInt8) Viewer)}
    {marks : List (List Mark)}
    (h : List.Forall₂ (fun a => Marked stamp clock a.input a.step) run marks) :
    (run.flatMap fun a => a.step.events) = marks.flatten.map Mark.event ∧
      ∀ written, .stamp written ∈ marks.flatten →
        ∃ n, stamp.bytes (clock.after n).reading = .ok written := by
  induction h with
  | nil => exact ⟨rfl, nofun⟩
  | cons hfirst _ ih =>
    refine ⟨?_, fun written hmem => ?_⟩
    · rw [List.flatMap_cons, List.flatten_cons, List.map_append, hfirst.events, ih.1]
    · rw [List.flatten_cons] at hmem
      exact (List.mem_append.mp hmem).elim (hfirst.genuine written) (ih.2 written)

/-- The line feed that ends a line can be told from a stamp by the write alone. -/
private theorem getLast?_event_iff {marks : List Mark}
    (h : ∀ written, .stamp written ∈ marks →
      ∃ n, stamp.bytes (clock.after n).reading = .ok written) :
    (marks.map Mark.event).getLast? = some (.shown [10]) ↔ marks.getLast? = some (.data 10) := by
  rw [List.getLast?_map, Option.map_eq_some_iff]
  constructor
  · rintro ⟨mark, hlast, hevent⟩
    cases mark with
    | stamp written =>
      obtain ⟨n, hn⟩ := h written (List.mem_of_getLast? hlast)
      exact absurd (Event.shown.inj hevent) (LineStamp.bytes_ne_lineFeed hn)
    | data b =>
      obtain rfl := List.singleton_inj.mp (Event.shown.inj hevent)
      exact hlast
  · exact fun hlast => ⟨_, hlast, rfl⟩

end Steps

/-- A viewer that starts in front of a line keeps to the line discipline, whatever fails. At every
moment, be it behind batches or behind the front of one, its mode tells whether a line begins. -/
theorem stamps_disciplined (timeFormat : Option String) (startTime : Bool) (clock : Clock)
    (output : Output) (batches : List (List UInt8)) (front rest : List UInt8) :
    let v := start .startDate timeFormat startTime clock output
    let before := stateAfter feed v batches
    let moment := (feed front).run before
    let run := attempts feed v (batches ++ [front])
    let written := run.flatMap fun a => a.step.events
    (feed (front ++ rest)).run before = (feed front >>= fun _ => feed rest).run before ∧
      (moment.state.display.view.mode = .startDate ↔
        written = [] ∨ written.getLast? = some (.shown [10])) ∧
      ∃ marks, List.Forall₂ (fun a => Marked v.display.stamp clock a.input a.step) run marks ∧
        ∃ later, marks.flatten.map Mark.kind ++ later ∈ lineWords∗ := by
  intro v before moment run written
  have hv : Stands v.display.stamp clock true v := ⟨rfl, rfl, 1, rfl⟩
  obtain ⟨_, between, -, -, hbefore⟩ := exists_marks hv batches
  obtain ⟨marks, atEnd, hmarked, hleads, hend⟩ := exists_marks hv (batches ++ [front])
  have hmoment : stateAfter feed v (batches ++ [front]) = moment.state := List.foldl_append ..
  obtain ⟨hevents, hgenuine⟩ := flatten_of_marked hmarked
  have hwritten : written = marks.flatten.map Mark.event := hevents
  refine ⟨run_feed_append hbefore.rowless front rest, ?_, marks, hmarked,
    hleads.exists_append_mem⟩
  rw [hmoment] at hend
  rw [hend.view_eq, View.mode_dated_eq_startDate, hleads.atEnd_iff, hwritten,
    getLast?_event_iff hgenuine, List.map_eq_nil_iff, eq_self_iff_true, true_and]

end Viewer

end SerialTerminal
