/-!
# Byte stuffing of SLIP frames

A frame ends with `frameEnd`. Inside a frame that byte and `escape` itself are written as two bytes,
so that no payload byte can be taken for a delimiter. `stuff` writes a payload and `unstuff` reads
one segment between two delimiters back; `unstuff_stuff` says that nothing is lost.

Reading is lenient: a run of escapes counts once, and after an escape a byte without a meaning of
its own stands for itself.

The bytes and the reading are those of `SPEC_FULL.md` §4.4b, the writing is that of the helper in
§15.
-/

namespace SerialTerminal.Slip

/-- The delimiter between frames. -/
def frameEnd : UInt8 := 0xC0

/-- The byte that announces a stuffed byte. -/
def escape : UInt8 := 0xDB

/-- Stands for `frameEnd` after an escape. -/
def escapedEnd : UInt8 := 0xDC

/-- Stands for `escape` after an escape. -/
def escapedEscape : UInt8 := 0xDD

/-- The byte that is meant by a byte after an escape: rule 3 of `SPEC_FULL.md` §4.4b. -/
def unescape (b : UInt8) : UInt8 :=
  if b = escapedEnd then frameEnd else if b = escapedEscape then escape else b

/-- One payload byte as it is written inside a frame. -/
def stuffByte (b : UInt8) : List UInt8 :=
  if b = frameEnd then [escape, escapedEnd]
  else if b = escape then [escape, escapedEscape]
  else [b]

/-- A payload as it is written inside a frame (`slip_stuff` of `SPEC_FULL.md` §15). -/
def stuff (payload : List UInt8) : List UInt8 := payload.flatMap stuffByte

/-- The payload bytes of a segment without delimiters, and whether an escape is left pending.
The first argument says whether an escape was pending before. -/
def unstuff : Bool → List UInt8 → List UInt8 × Bool
  | pending, [] => ([], pending)
  | pending, b :: rest =>
    if b = escape then unstuff true rest
    else
      let (bytes, left) := unstuff false rest
      ((if pending then unescape b else b) :: bytes, left)

/-- The segments of a stream between its delimiters. There is always at least one. -/
def segments : List UInt8 → List (List UInt8)
  | [] => [[]]
  | b :: rest =>
    if b = frameEnd then [] :: segments rest
    else
      match segments rest with
      | [] => [[b]]
      | first :: others => (b :: first) :: others

@[simp] theorem stuff_nil : stuff [] = [] := rfl

@[simp] theorem stuff_cons (b : UInt8) (rest : List UInt8) :
    stuff (b :: rest) = stuffByte b ++ stuff rest := by
  simp [stuff]

/-- A stuffed payload holds no delimiter. -/
theorem frameEnd_not_mem_stuff (payload : List UInt8) : frameEnd ∉ stuff payload := by
  induction payload with
  | nil => simp
  | cons b rest ih =>
    rw [stuff_cons, List.mem_append]
    rintro (h | h)
    · unfold stuffByte at h
      split at h
      · simp [frameEnd, escape, escapedEnd] at h
      · split at h
        · simp [frameEnd, escape, escapedEscape] at h
        · simp only [List.mem_singleton] at h
          simp_all
    · exact ih h

/-- Reading a stuffed byte gives the byte and leaves no escape pending. -/
theorem unstuff_stuffByte_append (b : UInt8) (rest : List UInt8) :
    unstuff false (stuffByte b ++ rest) =
      (b :: (unstuff false rest).1, (unstuff false rest).2) := by
  unfold stuffByte
  split
  · next h => simp [unstuff, h, unescape, escape, escapedEnd]
  · split
    · next h => simp [unstuff, h, unescape, escape, escapedEnd, escapedEscape]
    · next h => simp [unstuff, h]

/-- Reading what `stuff` writes gives the payload back. -/
theorem unstuff_stuff (payload : List UInt8) :
    unstuff false (stuff payload) = (payload, false) := by
  induction payload with
  | nil => rfl
  | cons b rest ih => rw [stuff_cons, unstuff_stuffByte_append, ih]

end SerialTerminal.Slip
