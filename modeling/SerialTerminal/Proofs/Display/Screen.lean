import SerialTerminal.Event

/-!
# Screens

What a terminal shows of the bytes that it is sent. A carriage return moves the cursor to the first
column, a line feed begins a new line, and any other byte takes the cell under the cursor and moves
the cursor on. The current line is kept in two parts, so that the cursor always stands in it or
right behind it.
-/

namespace SerialTerminal

/-- The bytes that an event writes to the sink. -/
def Event.shownBytes : Event → List UInt8
  | .shown bytes => bytes
  | _ => []

/-- A screen with the cursor in its last line. -/
structure Screen where
  /-- The lines above the current one. -/
  above : List (List UInt8)
  /-- The cells of the current line in front of the cursor. -/
  left : List UInt8
  /-- The cells of the current line from the cursor on. -/
  right : List UInt8
deriving DecidableEq, Repr

namespace Screen

/-- The screen before any byte. -/
def blank : Screen := ⟨[], [], []⟩

/-- The current line. -/
def line (s : Screen) : List UInt8 := s.left ++ s.right

/-- The screen after one byte. -/
def type (s : Screen) (b : UInt8) : Screen :=
  if b = 13 then ⟨s.above, [], s.line⟩
  else if b = 10 then ⟨s.above ++ [s.line], [], []⟩
  else ⟨s.above, s.left ++ [b], s.right.tail⟩

/-- The screen after some bytes. -/
def typeAll (s : Screen) (bytes : List UInt8) : Screen := bytes.foldl type s

/-- The screen after the writes among some events. -/
def draw (s : Screen) (es : List Event) : Screen := s.typeAll (es.flatMap Event.shownBytes)

@[simp] theorem typeAll_nil (s : Screen) : s.typeAll [] = s := rfl

@[simp] theorem typeAll_cons (s : Screen) (b : UInt8) (rest : List UInt8) :
    s.typeAll (b :: rest) = (s.type b).typeAll rest := rfl

/-- Bytes after bytes. -/
theorem typeAll_append (s : Screen) (xs ys : List UInt8) :
    s.typeAll (xs ++ ys) = (s.typeAll xs).typeAll ys := List.foldl_append ..

@[simp] theorem draw_nil (s : Screen) : s.draw [] = s := rfl

/-- Events after events. -/
theorem draw_append (s : Screen) (es fs : List Event) :
    s.draw (es ++ fs) = (s.draw es).draw fs := by
  rw [draw, List.flatMap_append, typeAll_append]
  rfl

/-- One write. -/
theorem draw_shown (s : Screen) (bytes : List UInt8) : s.draw [.shown bytes] = s.typeAll bytes := by
  rw [draw, List.flatMap_singleton]
  rfl

/-- A text without line ends takes the cells from the cursor on. -/
theorem typeAll_text {text : List UInt8} (h : ∀ b ∈ text, b ≠ 13 ∧ b ≠ 10) (s : Screen) :
    s.typeAll text = ⟨s.above, s.left ++ text, s.right.drop text.length⟩ := by
  induction text generalizing s with
  | nil => rw [typeAll_nil, List.append_nil, List.length_nil, List.drop_zero]
  | cons b rest ih =>
    have hb := h b List.mem_cons_self
    have hr := ih fun x hx => h x (List.mem_cons_of_mem b hx)
    rw [typeAll_cons, type, if_neg hb.1, if_neg hb.2, hr]
    simp only [List.append_assoc, List.singleton_append, List.drop_tail, List.length_cons]

/-- A text behind a carriage return takes the place of a line that is no longer. -/
theorem typeAll_overwrite {text : List UInt8} (h : ∀ b ∈ text, b ≠ 13 ∧ b ≠ 10) {s : Screen}
    (hl : s.line.length ≤ text.length) : s.typeAll (13 :: text) = ⟨s.above, text, []⟩ := by
  rw [typeAll_cons, type, if_pos rfl, typeAll_text h, List.nil_append, List.drop_of_length_le hl]

/-- A line feed behind it leaves it above a new line. -/
theorem typeAll_overwrite_line {text : List UInt8} (h : ∀ b ∈ text, b ≠ 13 ∧ b ≠ 10) {s : Screen}
    (hl : s.line.length ≤ text.length) :
    s.typeAll (13 :: text ++ [10]) = ⟨s.above ++ [text], [], []⟩ := by
  rw [typeAll_append, typeAll_overwrite h hl]
  simp [type, line]

end Screen

end SerialTerminal
