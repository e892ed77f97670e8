import SerialTerminal.Display.Viewer
import SerialTerminal.Proofs.Act

/-!
# Batches

A viewer that has no row in progress takes its bytes one by one: how they are cut into batches makes
no difference, not even to where a failure stops it.
-/

namespace SerialTerminal.Viewer

open Act

/-- Holds of a viewer that shows no rows. -/
def Rowless (v : Viewer) : Prop := v.display.view.row? = none

private theorem keeps_setView {view : View} (h : view.row? = none) :
    Keeps Rowless (setView view) :=
  keeps_modify fun _ _ => h

private theorem keeps_write (bytes : List UInt8) : Keeps Rowless (write bytes) :=
  keeps_on _ fun _ _ hv => hv

private theorem keeps_writeText (text : List Char) : Keeps Rowless (writeText text) := by
  unfold writeText
  split
  · exact keeps_write _
  · exact keeps_fail _ _

private theorem keeps_writeStamp : Keeps Rowless writeStamp := by
  refine Keeps.bind (keeps_on Clock.now fun _ _ hv => hv) fun now => ?_
  apply keeps_gets_bind
  intro v hv
  cases v.display.stamp.text now with
  | ok text => exact keeps_write _ v hv
  | error cause => exact hv

private theorem keeps_receiveDated (b : UInt8) : Keeps Rowless (receiveDated b) := by
  refine (keeps_write [b]).bind fun _ => ?_
  by_cases hb : b = 10
  · rw [if_pos hb]
    exact keeps_setView rfl
  · rw [if_neg hb]
    exact keeps_done _ _

private theorem keeps_receiveDecimal (column : Nat) (b : UInt8) :
    Keeps Rowless (receiveDecimal column b) := by
  refine (keeps_writeText _).bind fun _ => ?_
  by_cases hc : column + 1 < DecimalColumns.lineWidth
  · rw [if_pos hc]
    exact keeps_setView rfl
  · rw [if_neg hc]
    exact (keeps_setView rfl).bind fun _ => keeps_writeText _

private theorem keeps_receiveFramed (policy : FramePolicy) (frames : Slip.FrameDecoder)
    (b : UInt8) : Keeps Rowless (receiveFramed policy frames b) := by
  unfold receiveFramed
  rcases frames.feed b with ⟨next, reaction⟩
  refine (keeps_setView rfl).bind fun _ => ?_
  cases reaction with
  | silent => exact keeps_done _ _
  | overflow => exact keeps_emit _ _
  | payload bytes =>
    by_cases hp : policy = .hidden
    · simp only [if_pos hp]
      exact keeps_done _ _
    · simp only [if_neg hp]
      exact keeps_forEach (fun _ => keeps_writeText _) _

private theorem keeps_receiveIn {view : View} (h : view.row? = none) (b : UInt8) :
    Keeps Rowless (receiveIn view b) := by
  cases view with
  | text initial => exact keeps_write [b]
  | dated atLineStart =>
    cases atLineStart with
    | false => exact keeps_receiveDated b
    | true =>
      refine keeps_writeStamp.bind fun _ => ?_
      exact (keeps_setView rfl).bind fun _ => keeps_receiveDated b
  | decimal column => exact keeps_receiveDecimal column b
  | hex row => cases h
  | slip policy frames =>
    rw [receiveIn]
    split
    · exact keeps_write [b]
    · exact keeps_receiveFramed policy frames b

/-- A viewer that shows no rows never begins to, whatever it receives and however that ends. -/
theorem keeps_receive (b : UInt8) : Keeps Rowless (receive b) :=
  keeps_gets_bind fun v hv => keeps_receiveIn hv b v hv

/-- There is nothing to write again where no row is in progress. -/
theorem run_redraw {v : Viewer} (h : v.Rowless) : redraw.run v = ⟨.ok (), v, []⟩ := by
  rcases v with ⟨⟨view, stamp⟩, clock, output⟩
  cases view with
  | hex row => cases h
  | _ => rfl

/-- The end of a batch does nothing. -/
theorem run_feed {v : Viewer} (h : v.Rowless) (data : List UInt8) :
    (feed data).run v = (forEach receive data).run v := by
  have hd := keeps_forEach keeps_receive data v h
  have hp : forEach receive data = forEach receive data >>= fun _ => pure () :=
    bind_pure_unit.symm
  rw [feed, hp, bind_assoc]
  exact run_bind_congr rfl fun _ => run_redraw hd

/-- A batch may be cut in two. -/
theorem run_feed_append {v : Viewer} (h : v.Rowless) (front behind : List UInt8) :
    (feed (front ++ behind)).run v = (feed front >>= fun _ => feed behind).run v := by
  have hd := keeps_forEach keeps_receive front v h
  rw [run_feed h, forEach_append]
  exact (run_bind_congr (run_feed h front) fun _ => run_feed hd behind).symm

/-- Batches may be cut anywhere. -/
theorem run_forEach_feed {v : Viewer} (h : v.Rowless) (batches : List (List UInt8)) :
    (forEach feed batches).run v = (forEach receive batches.flatten).run v := by
  induction batches generalizing v with
  | nil => rfl
  | cons data rest ih =>
    have hd := keeps_forEach keeps_receive data v h
    rw [List.flatten_cons, forEach_append, forEach]
    exact run_bind_congr (run_feed h data) fun _ => ih hd

end SerialTerminal.Viewer
