import SerialTerminal.Display.Viewer
import SerialTerminal.Proofs.Calls

/-!
# Stamps

A viewer looks at what its stamps show only where it puts stamps in front of lines. In any other
view the format of a stamp, or the time that it counts from, makes no difference: not to what is
written, not to the clock, and not to where a failure stops the viewer (`blind_feed`).
-/

namespace SerialTerminal

/-- Holds of the views that put no stamps in front of lines. -/
def View.Undated : View → Prop
  | .dated _ => False
  | _ => True

namespace Viewer

open Act

/-- Holds of a viewer that puts no stamps in front of lines. -/
def Undated (v : Viewer) : Prop := v.display.view.Undated

/-- A viewer with its stamp erased. -/
def unstamped (v : Viewer) : Viewer := { v with display := { v.display with stamp := .sinceEpoch } }

private theorem blind_setView (view : View) (h : view.Undated) :
    Blind Undated unstamped (setView view) :=
  blind_modify (fun _ _ => h) fun _ => rfl

private theorem blind_write (bytes : List UInt8) : Blind Undated unstamped (write bytes) :=
  blind_on _ (fun _ _ hv => hv) (fun _ => rfl) fun _ _ => rfl

private theorem blind_writeText (text : List Char) : Blind Undated unstamped (writeText text) := by
  unfold writeText
  split
  · exact blind_write _
  · exact blind_fail _

private theorem blind_writeRow (row : ReceptionBuffer) (lineEnd : List Char) :
    Blind Undated unstamped (writeRow row lineEnd) := by
  unfold writeRow
  split
  · exact blind_writeText _
  · exact blind_fail _

private theorem blind_receiveDecimal (column : Nat) (b : UInt8) :
    Blind Undated unstamped (receiveDecimal column b) := by
  refine (blind_writeText _).bind fun _ => ?_
  split
  · exact blind_setView _ trivial
  · exact (blind_setView (.decimal 0) trivial).bind fun _ => blind_writeText _

private theorem blind_receiveHex (row : ReceptionBuffer) (b : UInt8) :
    Blind Undated unstamped (receiveHex row b) := by
  unfold receiveHex
  split
  · exact blind_fail _
  · refine (blind_setView (.hex _) trivial).bind fun _ => ?_
    split
    · exact (blind_writeRow _ _).bind fun _ => blind_setView _ trivial
    · exact blind_done ()

private theorem blind_receiveFramed (policy : FramePolicy) (frames : Slip.FrameDecoder)
    (b : UInt8) : Blind Undated unstamped (receiveFramed policy frames b) := by
  unfold receiveFramed
  rcases frames.feed b with ⟨next, reaction⟩
  refine (blind_setView (.slip policy next) trivial).bind fun _ => ?_
  cases reaction with
  | silent => exact blind_done ()
  | overflow => exact blind_emit _
  | payload bytes =>
    simp only
    split
    · exact blind_done ()
    · exact blind_forEach (fun _ => blind_writeText _) _

private theorem blind_receiveIn {view : View} (h : view.Undated) (b : UInt8) :
    Blind Undated unstamped (receiveIn view b) := by
  cases view with
  | text initial => exact blind_write [b]
  | dated atLineStart => exact h.elim
  | decimal column => exact blind_receiveDecimal column b
  | hex row => exact blind_receiveHex row b
  | slip policy frames =>
    rw [receiveIn]
    split
    · exact blind_write [b]
    · exact blind_receiveFramed policy frames b

private theorem blind_receive (b : UInt8) : Blind Undated unstamped (receive b) :=
  blind_gets_bind (fun _ => rfl) fun _ hv => blind_receiveIn hv b

private theorem blind_redraw : Blind Undated unstamped redraw := by
  refine blind_gets_bind (fun _ => rfl) fun v hv => ?_
  cases v.display.view with
  | hex row =>
    simp only
    split
    · exact blind_done ()
    · exact blind_writeRow row []
  | _ => exact blind_done ()

/-- A batch is shown without a look at the stamp. -/
theorem blind_feed (data : List UInt8) : Blind Undated unstamped (feed data) :=
  (blind_forEach blind_receive data).bind fun _ => blind_redraw

end Viewer

end SerialTerminal
