import SerialTerminal.Display.Viewer
import SerialTerminal.Proofs.Calls

/-!
# Calls of a viewer

What a viewer does with a batch is made of a few calls (`madeOf_feed_flush`). All but the last one
are steps that pass nothing on (`madeOf_feed`). From the calls it follows that a viewer causes no
events but those of `Event.isDisplay`, and that the answers of its output do not matter as long as
none is a refusal.
-/

namespace SerialTerminal

/-- Holds of the events that a viewer causes. -/
def Event.isDisplay : Event → Bool
  | .shown _ | .shownFlushed | .record .warning _ => true
  | _ => false

namespace Viewer

open Act

/-- The failures that a display has of its own. -/
inductive Stuck : Failure → Prop where
  | buffer (cause : ReceptionBuffer.Error) : Stuck (.buffer cause)
  | row (cause : HexDump.RowOverflow) : Stuck (.row cause)
  | notLatin1 : Stuck .notLatin1
  | stamp (cause : StampError) : Stuck (.stamp cause)

/-- The calls that showing bytes is made of. -/
inductive IsCall : (α : Type) → Act Viewer α → Prop where
  | look {α : Type} (g : Display → α) : IsCall α (gets fun v => g v.display)
  | setView (view : View) : IsCall Unit (setView view)
  | write (bytes : List UInt8) : IsCall Unit (write bytes)
  | flush : IsCall Unit flush
  | now : IsCall Binary64 (Act.on clock (fun clock v => { v with clock := clock }) Clock.now)
  | warn (text : String) : IsCall Unit (Act.log .warning text)
  | fail {α : Type} {e : Failure} (h : Stuck e) : IsCall α (Act.fail e)

/-- The calls that showing bytes is made of before they are passed on. -/
inductive IsStep : (α : Type) → Act Viewer α → Prop where
  | look {α : Type} (g : Display → α) : IsStep α (gets fun v => g v.display)
  | setView (view : View) : IsStep Unit (setView view)
  | write (bytes : List UInt8) : IsStep Unit (write bytes)
  | now : IsStep Binary64 (Act.on clock (fun clock v => { v with clock := clock }) Clock.now)
  | warn (text : String) : IsStep Unit (Act.log .warning text)
  | fail {α : Type} {e : Failure} (h : Stuck e) : IsStep α (Act.fail e)

/-- They are calls. -/
theorem IsStep.isCall {α : Type} {x : Act Viewer α} (h : IsStep α x) : IsCall α x := by
  cases h with
  | look g => exact .look g
  | setView view => exact .setView view
  | write bytes => exact .write bytes
  | now => exact .now
  | warn text => exact .warn text
  | fail hs => exact .fail hs

section Made

private theorem madeOf_setView (view : View) : MadeOf IsStep Unit (setView view) :=
  .call (.setView view)

private theorem madeOf_write (bytes : List UInt8) : MadeOf IsStep Unit (write bytes) :=
  .call (.write bytes)

private theorem madeOf_writeText (text : List Char) : MadeOf IsStep Unit (writeText text) := by
  unfold writeText
  split
  · exact madeOf_write _
  · exact .call (.fail .notLatin1)

private theorem madeOf_writeRow (row : ReceptionBuffer) (lineEnd : List Char) :
    MadeOf IsStep Unit (writeRow row lineEnd) := by
  unfold writeRow
  split
  · exact madeOf_writeText _
  · exact .call (.fail (.row _))

private theorem madeOf_writeStamp : MadeOf IsStep Unit writeStamp := by
  refine (MadeOf.call .now).bind fun now => ?_
  refine (MadeOf.call (.look fun display => display.stamp)).bind fun stamp => ?_
  cases stamp.text now with
  | ok text => exact madeOf_write _
  | error cause => exact .call (.fail (.stamp cause))

private theorem madeOf_receiveDated (b : UInt8) : MadeOf IsStep Unit (receiveDated b) := by
  refine (madeOf_write [b]).bind fun _ => ?_
  split
  · exact madeOf_setView _
  · exact .done ()

private theorem madeOf_receiveDecimal (column : Nat) (b : UInt8) :
    MadeOf IsStep Unit (receiveDecimal column b) := by
  refine (madeOf_writeText _).bind fun _ => ?_
  split
  · exact madeOf_setView _
  · exact (madeOf_setView _).bind fun _ => madeOf_writeText _

private theorem madeOf_receiveHex (row : ReceptionBuffer) (b : UInt8) :
    MadeOf IsStep Unit (receiveHex row b) := by
  unfold receiveHex
  split
  · exact .call (.fail (.buffer _))
  · refine (madeOf_setView _).bind fun _ => ?_
    split
    · exact (madeOf_writeRow _ _).bind fun _ => madeOf_setView _
    · exact .done ()

private theorem madeOf_writeFrame (payload : List UInt8) :
    MadeOf IsStep Unit (writeFrame payload) :=
  madeOf_forEach (fun _ => madeOf_writeText _) _

private theorem madeOf_receiveFramed (policy : FramePolicy) (frames : Slip.FrameDecoder)
    (b : UInt8) : MadeOf IsStep Unit (receiveFramed policy frames b) := by
  unfold receiveFramed
  rcases frames.feed b with ⟨next, reaction⟩
  refine (madeOf_setView _).bind fun _ => ?_
  cases reaction with
  | silent => exact .done ()
  | overflow => exact .call (.warn _)
  | payload bytes =>
    simp only
    split
    · exact .done ()
    · exact madeOf_writeFrame bytes

private theorem madeOf_receiveIn (view : View) (b : UInt8) :
    MadeOf IsStep Unit (receiveIn view b) := by
  cases view with
  | text initial => exact madeOf_write [b]
  | dated atLineStart =>
    cases atLineStart with
    | false => exact madeOf_receiveDated b
    | true =>
      refine madeOf_writeStamp.bind fun _ => ?_
      exact (madeOf_setView _).bind fun _ => madeOf_receiveDated b
  | decimal column => exact madeOf_receiveDecimal column b
  | hex row => exact madeOf_receiveHex row b
  | slip policy frames =>
    rw [receiveIn]
    split
    · exact madeOf_write [b]
    · exact madeOf_receiveFramed policy frames b

private theorem madeOf_redraw : MadeOf IsStep Unit redraw := by
  refine (MadeOf.call (.look fun display => display.view)).bind fun view => ?_
  cases view with
  | hex row =>
    simp only
    split
    · exact .done ()
    · exact madeOf_writeRow row []
  | _ => exact .done ()

/-- A byte is shown by calls. -/
theorem madeOf_receive (b : UInt8) : MadeOf IsStep Unit (receive b) :=
  (MadeOf.call (.look fun display => display.view)).bind fun view => madeOf_receiveIn view b

/-- A batch is shown by calls. -/
theorem madeOf_feed (data : List UInt8) : MadeOf IsStep Unit (feed data) :=
  (madeOf_forEach madeOf_receive data).bind fun _ => madeOf_redraw

/-- So is a batch whose bytes are then passed on. -/
theorem madeOf_feed_flush (data : List UInt8) :
    MadeOf IsCall Unit (feed data >>= fun _ => flush) :=
  ((madeOf_feed data).mono fun _ _ => IsStep.isCall).bind fun _ => .call .flush

end Made

/-- A viewer with an output that refuses nothing. -/
def unrefused (v : Viewer) : Viewer := { v with output := .willing }

private theorem ignores_next : Ignores (fun _ => []) (Script.next ()) := by
  intro script _ rest es h
  rw [causes_next () _ _ _ _ h]
  rfl

private theorem ignores_write (bytes : List UInt8) : Ignores unrefused (write bytes) := by
  have hn : Ignores (fun _ => Output.willing)
      (Act.on Output.writes (fun writes o => { o with writes := writes }) (Script.next ())) :=
    ignores_next.on (fun _ => rfl) fun _ _ => rfl
  have ho : Ignores (fun _ => Output.willing) (Output.write bytes) :=
    hn.bind fun _ => ignores_emit _
  exact ho.on (fun _ => rfl) fun _ _ => rfl

private theorem ignores_flush : Ignores unrefused flush := by
  have hn : Ignores (fun _ => Output.willing)
      (Act.on Output.flushes (fun flushes o => { o with flushes := flushes }) (Script.next ())) :=
    ignores_next.on (fun _ => rfl) fun _ _ => rfl
  have ho : Ignores (fun _ => Output.willing) Output.flush := hn.bind fun _ => ignores_emit _
  exact ho.on (fun _ => rfl) fun _ _ => rfl

/-- The answers of the output do not matter to a viewer, unless one is a refusal. -/
theorem ignores_of_madeOf {α : Type} {x : Act Viewer α} (h : MadeOf IsCall α x) :
    Ignores unrefused x := by
  refine h.ignores fun β y hy => ?_
  cases hy with
  | look g => exact ignores_gets fun _ => rfl
  | setView view => exact ignores_modify fun _ => rfl
  | write bytes => exact ignores_write bytes
  | flush => exact ignores_flush
  | now =>
    have hn : Ignores id Clock.now := fun _ _ _ _ h => h
    exact hn.on (fun _ => rfl) fun _ _ => rfl
  | warn text => exact ignores_emit _
  | fail _ => exact ignores_fail _

/-- Nothing is passed on before the end of a batch: only then the output is asked to. -/
theorem unflushed_of_madeOf {α : Type} {x : Act Viewer α} (h : MadeOf IsStep α x)
    (v : Viewer) :
    (x.run v).state.output.flushes = v.output.flushes ∧ .shownFlushed ∉ (x.run v).events := by
  have hkeeps : Keeps (fun u : Viewer => u.output.flushes = v.output.flushes) x := by
    refine h.keeps fun β y hy => ?_
    cases hy with
    | look g => exact fun _ hu => hu
    | setView view => exact keeps_modify fun _ hu => hu
    | write bytes =>
      rintro ⟨display, clock, ⟨_ | ⟨_ | _, rest⟩, flushes⟩⟩ hu <;> exact hu
    | now => exact keeps_on _ fun _ _ hu => hu
    | warn text => exact keeps_emit _ _
    | fail _ => exact keeps_fail _ _
  have hemits : Emits (· != .shownFlushed) x := by
    refine h.emits fun β y hy => ?_
    cases hy with
    | look g | setView view | now | fail _ => exact emits_of_silent fun _ => rfl
    | write bytes => exact (((emits_next _ _).on _ _).bind fun _ => emits_emit rfl).on _ _
    | warn text => exact emits_emit rfl
  exact ⟨hkeeps v rfl, fun hmem => absurd (hemits v _ hmem) (by decide)⟩

/-- Viewers show bytes and warn, and do nothing else. -/
theorem emits_of_madeOf {α : Type} {x : Act Viewer α} (h : MadeOf IsCall α x) :
    Emits Event.isDisplay x := by
  refine h.emits fun β y hy => ?_
  cases hy with
  | look g | setView view | now | fail _ => exact emits_of_silent fun _ => rfl
  | write bytes =>
    exact (((emits_next _ _).on _ _).bind fun _ => emits_emit rfl).on _ _
  | flush => exact (((emits_next _ _).on _ _).bind fun _ => emits_emit rfl).on _ _
  | warn text => exact emits_emit rfl

end Viewer

end SerialTerminal
