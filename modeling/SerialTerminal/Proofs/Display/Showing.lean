import SerialTerminal.Display.Viewer
import SerialTerminal.Proofs.Act
import SerialTerminal.Proofs.HexDump

/-!
# Showing

A viewer whose sink never refuses a write. `Viewer.Shows` says which events an act of such a viewer
causes and in which view it leaves the display; the clock and the stamps stay as they are.
-/

namespace SerialTerminal

/-- Holds of the events that are writes to the sink. -/
def Event.isShown : Event → Bool
  | .shown _ => true
  | _ => false

namespace Output

/-- Holds of a sink that refuses no write. -/
def Accepts (o : Output) : Prop := ∀ reply ∈ o.writes, reply = .ok ()

/-- The sink after the writes among some events. -/
def after (o : Output) (es : List Event) : Output :=
  { o with writes := o.writes.drop (es.countP Event.isShown) }

/-- A sink without answers of its own accepts every write. -/
theorem accepts_willing : willing.Accepts := fun _ h => absurd h List.not_mem_nil

/-- A sink that refuses no write keeps to it. -/
theorem Accepts.after {o : Output} (h : o.Accepts) (es : List Event) : (o.after es).Accepts :=
  fun reply hr => h reply (List.mem_of_mem_drop hr)

/-- A write to a sink that accepts it. -/
theorem ends_write {o : Output} (h : o.Accepts) (bytes : List UInt8) :
    Act.Ends (write bytes) o () (o.after [.shown bytes]) [.shown bytes] := by
  have hn : Act.Ends (Script.next ()) o.writes () (o.writes.drop 1) [] := by
    cases hw : o.writes with
    | nil => rfl
    | cons reply rest =>
      have hr := h reply (hw ▸ List.mem_cons_self)
      rw [hr]
      rfl
  exact (hn.on).bind (Act.ends_emit _ _)

end Output

namespace Viewer

/-- The viewer in a view, after the writes among some events. -/
def after (v : Viewer) (view : View) (es : List Event) : Viewer :=
  ⟨⟨view, v.display.stamp⟩, v.clock, v.output.after es⟩

/-- The view is the one that was asked for. -/
@[simp] theorem view_after (v : Viewer) (view : View) (es : List Event) :
    (v.after view es).display.view = view := rfl

/-- Events after events. -/
theorem after_after (v : Viewer) (a b : View) (es fs : List Event) :
    (v.after a es).after b fs = v.after b (es ++ fs) := by
  simp only [after, Output.after, List.drop_drop, List.countP_append]

/-- Holds of an act that ends well in a view with some events. -/
def Shows (x : Act Viewer Unit) (v : Viewer) (view : View) (es : List Event) : Prop :=
  Act.Ends x v () (v.after view es) es

variable {x y : Act Viewer Unit} {v : Viewer} {a b : View} {es fs : List Event}

/-- Acts one after another. -/
theorem Shows.bind (hx : Shows x v a es) (hy : Shows y (v.after a es) b fs) :
    Shows (x >>= fun _ => y) v b (es ++ fs) := by
  rw [Shows, ← after_after v a b es fs]
  exact Act.Ends.bind hx hy

/-- Doing nothing shows nothing. -/
theorem shows_done (v : Viewer) : Shows (Act.done ()) v v.display.view [] := Act.ends_done () v

/-- A change of the view shows nothing. -/
theorem shows_setView (v : Viewer) (view : View) : Shows (setView view) v view [] :=
  Act.ends_modify _ v

/-- A record for the journal is not shown. -/
theorem shows_log (v : Viewer) (severity : Severity) (text : String) :
    Shows (Act.log severity text) v v.display.view [.record severity text] :=
  Act.ends_emit _ v

/-- A write is shown. -/
theorem shows_write (h : v.output.Accepts) (bytes : List UInt8) :
    Shows (write bytes) v v.display.view [.shown bytes] :=
  (Output.ends_write h bytes).on

/-- A text is shown as its bytes. -/
theorem shows_writeText (h : v.output.Accepts) {text : List Char}
    (ht : ∀ c ∈ text, Text.IsLatin1 c) :
    Shows (writeText text) v v.display.view [.shown (Text.latin1 text)] := by
  rw [writeText, Text.latin1?_eq_some ht]
  exact shows_write h _

/-- An act for each element of a list, each with events of its own, in a view that stays. -/
theorem shows_forEach {α : Type} {f : α → Act Viewer Unit} {g : α → List Event}
    (h : v.output.Accepts) (hv : v.display.view = a) (l : List α)
    (hf : ∀ x ∈ l, ∀ u : Viewer, u.output.Accepts → u.display.view = a → Shows (f x) u a (g x)) :
    Shows (Act.forEach f l) v a (l.flatMap g) := by
  induction l generalizing v with
  | nil =>
    rw [← hv]
    exact shows_done v
  | cons x rest ih =>
    have hx := hf x List.mem_cons_self v h hv
    exact hx.bind (ih (h.after (g x)) rfl fun y hy => hf y (List.mem_cons_of_mem x hy))

/-- What is shown of a byte depends on the view that it meets. -/
theorem Shows.receive {c : UInt8} (h : Shows (receiveIn v.display.view c) v a es) :
    Shows (receive c) v a es := h

/-- One byte by itself. -/
theorem Shows.receive_singleton {c : UInt8} (h : Shows (Viewer.receive c) v a es) :
    Shows (Act.forEach Viewer.receive [c]) v a es := by
  have hd := h.bind (shows_done (v.after a es))
  rwa [List.append_nil] at hd

/-- Bytes may be cut anywhere. -/
theorem Shows.receive_append {xs ys : List UInt8}
    (hx : Shows (Act.forEach Viewer.receive xs) v a es)
    (hy : Shows (Act.forEach Viewer.receive ys) (v.after a es) b fs) :
    Shows (Act.forEach Viewer.receive (xs ++ ys)) v b (es ++ fs) := by
  rw [Act.forEach_append]
  exact hx.bind hy

end Viewer

end SerialTerminal
