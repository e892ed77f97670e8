import SerialTerminal.Proofs.HexDump

/-!
# Reading a dump

A byte has its two digits in columns that depend on its position alone, and where a row has no byte
these columns are blank. So the bytes of a row can be read back from the columns, however many they
are, without a look at the gutter (`readBytes_layout`). The chunks of the rows make up the payload
(`flatten_chunks`).
-/

namespace SerialTerminal.HexDump

open Numeral (hexDigit hexPair)

/-- The column behind the label in which the first digit of a byte stands. -/
def byteColumn (index : Nat) : Nat := 1 + 2 * index + index / groupWidth

/-- The number that an upper case hexadecimal digit stands for. -/
def digitValue? (c : Char) : Option Nat :=
  if '0' ≤ c ∧ c ≤ '9' then some (c.toNat - 48)
  else if 'A' ≤ c ∧ c ≤ 'F' then some (c.toNat - 55)
  else none

/-- The byte whose two digits are in front of a text. -/
def readPair? : List Char → Option UInt8
  | high :: low :: _ => do
    let h ← digitValue? high
    let l ← digitValue? low
    return UInt8.ofNat (16 * h + l)
  | _ => none

/-- The byte at a position of a row. The row is given without its label. -/
def readByte? (cells : List Char) (index : Nat) : Option UInt8 :=
  readPair? (cells.drop (byteColumn index))

/-- The bytes of a row. -/
def readBytes (cells : List Char) : List UInt8 := (List.range rowWidth).filterMap (readByte? cells)

private theorem digitValue?_hexDigit : ∀ n < 16, digitValue? (hexDigit n) = some n := by decide

/-- The digits of a byte are read as the byte. -/
theorem readPair?_hexPair (b : UInt8) (rest : List Char) :
    readPair? (hexPair b ++ rest) = some b := by
  have hb := b.toNat_lt
  have hh := digitValue?_hexDigit (b.toNat / 16) (by omega)
  have hl := digitValue?_hexDigit (b.toNat % 16) (by omega)
  have hn : 16 * (b.toNat / 16) + b.toNat % 16 = b.toNat := Nat.div_add_mod b.toNat 16
  change (digitValue? _).bind (fun h => (digitValue? _).bind fun l => some _) = _
  rw [hh, Option.bind_some, hl, Option.bind_some, hn, UInt8.ofNat_toNat]

/-- The label stands in front of a row and changes nothing behind it. -/
theorem layout_eq_append (label : List Char) (chunk : List UInt8) :
    layout label chunk = label ++ layout [] chunk := by
  simp [layout]

private theorem length_groupGap (index : Nat) :
    (groupGap index).length = if index % 4 = 0 then 1 else 0 := by
  rw [groupGap, groupWidth]
  split <;> rfl

/-- Bytes take two columns each, and each group that begins takes one more. -/
theorem length_hexCells_add (index : Nat) (bytes : List UInt8) :
    (hexCells index bytes).length + (index + 3) / 4 =
      2 * bytes.length + (index + bytes.length + 3) / 4 := by
  induction bytes generalizing index with
  | nil => simp [hexCells]
  | cons b rest ih =>
    have hr := ih (index + 1)
    have hp : (hexPair b).length = 2 := rfl
    rw [hexCells, List.length_append, List.length_append, length_groupGap, hp, List.length_cons]
    split <;> omega

/-- The cells of bytes that follow each other. -/
theorem hexCells_append (index : Nat) (xs ys : List UInt8) :
    hexCells index (xs ++ ys) = hexCells index xs ++ hexCells (index + xs.length) ys := by
  induction xs generalizing index with
  | nil => rfl
  | cons b rest ih =>
    have hi : index + 1 + rest.length = index + (rest.length + 1) := by omega
    rw [List.cons_append, hexCells, hexCells, ih, List.length_cons, hi,
      List.append_assoc _ _ (hexCells _ ys)]

/-- The cells of bytes and the gap behind them take the columns in front of the next byte. -/
theorem length_hexCells_groupGap (before : List UInt8) :
    (hexCells 0 before ++ groupGap before.length).length = byteColumn before.length := by
  have hc := length_hexCells_add 0 before
  rw [List.length_append, length_groupGap, byteColumn, groupWidth]
  split <;> omega

private theorem drop_byteColumn_layout (before behind : List UInt8) (b : UInt8) :
    ∃ rest, (layout [] (before ++ b :: behind)).drop (byteColumn before.length) =
      hexPair b ++ rest := by
  have hl := length_hexCells_groupGap before
  rw [layout, hexCells_append, hexCells, Nat.zero_add]
  simp only [List.nil_append, List.append_assoc]
  rw [← List.append_assoc (hexCells 0 before), List.drop_left' hl]
  exact ⟨_, rfl⟩

/-- The digits of a byte stand in its column. -/
theorem exists_drop_layout {chunk : List UInt8} {index : Nat} {b : UInt8}
    (h : chunk[index]? = some b) :
    ∃ rest, (layout [] chunk).drop (byteColumn index) = hexPair b ++ rest := by
  obtain ⟨hi, rfl⟩ := List.getElem?_eq_some_iff.mp h
  have hsplit : chunk = chunk.take index ++ chunk[index] :: chunk.drop (index + 1) := by
    rw [List.getElem_cons_drop, List.take_append_drop]
  have hlength : (chunk.take index).length = index := List.length_take_of_le (Nat.le_of_lt hi)
  have hrest := drop_byteColumn_layout (chunk.take index) (chunk.drop (index + 1)) chunk[index]
  rwa [← hsplit, hlength] at hrest

private theorem eq_blank_of_mem_blankCells {index missing : Nat} {c : Char}
    (h : c ∈ blankCells index missing) : c = ' ' := by
  induction missing generalizing index with
  | zero => exact absurd h List.not_mem_nil
  | succ missing ih =>
    rw [blankCells, List.mem_append, List.mem_append] at h
    rcases h with (h | h) | h
    · rw [groupGap] at h
      split at h
      · exact List.mem_singleton.mp h
      · exact absurd h List.not_mem_nil
    · simpa using h
    · exact ih h

/-- Between the digits of the last byte and the gutter a row is blank. -/
theorem layout_eq_blank {chunk : List UInt8} (h : chunk.length ≤ rowWidth) :
    ∃ gutter, layout [] chunk =
      hexCells 0 chunk ++ (List.replicate (47 - (hexCells 0 chunk).length) ' ' ++ gutter) := by
  let gutter := chunk.map fun b => gutterChar b.toNat
  let blanks := [' ', ' '] ++ blankCells chunk.length (rowWidth - chunk.length)
  have hsplit : layout [] chunk = hexCells 0 chunk ++ (blanks ++ gutter) := by
    simp [layout, blanks, gutter]
  have hlength : blanks.length = 47 - (hexCells 0 chunk).length := by
    have hl := length_layout [] h
    rw [hsplit] at hl
    simp only [gutter, List.length_append, List.length_map, List.length_nil] at hl
    omega
  have hblank : blanks = List.replicate (47 - (hexCells 0 chunk).length) ' ' := by
    apply List.eq_replicate_iff.mpr
    refine ⟨hlength, fun c hc => ?_⟩
    rcases List.mem_append.mp hc with hc | hc
    · simpa using hc
    · exact eq_blank_of_mem_blankCells hc
  exact ⟨gutter, by rw [hsplit, hblank]⟩

private theorem readByte?_of_length_le {chunk : List UInt8} (h : chunk.length ≤ rowWidth)
    {index : Nat} (hi : chunk.length ≤ index) (hw : index < rowWidth) :
    readByte? (layout [] chunk) index = none := by
  obtain ⟨gutter, hlayout⟩ := layout_eq_blank h
  have hc := length_hexCells_add 0 chunk
  let start := (hexCells 0 chunk).length
  have hstart : start ≤ byteColumn index := by
    simp only [start, byteColumn, groupWidth, rowWidth] at *
    omega
  obtain ⟨room, hroom⟩ : ∃ room, 47 - start - (byteColumn index - start) = room + 1 := by
    refine ⟨46 - byteColumn index, ?_⟩
    simp only [start, byteColumn, groupWidth, rowWidth] at *
    omega
  have hdrop : (layout [] chunk).drop (byteColumn index) =
      ' ' :: ((List.replicate room ' ') ++
        gutter.drop (byteColumn index - start - (47 - start))) := by
    rw [hlayout, List.drop_append, List.drop_of_length_le hstart, List.nil_append, List.drop_append,
      List.drop_replicate, hroom, List.length_replicate]
    rfl
  have hblank (rest : List Char) : readPair? (' ' :: rest) = none := by
    cases rest <;> rfl
  rw [readByte?, hdrop, hblank]

/-- The columns of a position hold the byte there, if the row has one. -/
theorem readByte?_layout {chunk : List UInt8} (h : chunk.length ≤ rowWidth) {index : Nat}
    (hw : index < rowWidth) : readByte? (layout [] chunk) index = chunk[index]? := by
  by_cases hi : index < chunk.length
  · obtain ⟨rest, hrest⟩ := exists_drop_layout (List.getElem?_eq_getElem hi)
    rw [readByte?, hrest, readPair?_hexPair, List.getElem?_eq_getElem hi]
  · rw [readByte?_of_length_le h (by omega) hw, List.getElem?_eq_none (by omega)]

private theorem filterMap_range_eq_take {read : Nat → Option UInt8} {bytes : List UInt8} (n : Nat)
    (h : ∀ index < n, read index = bytes[index]?) :
    (List.range n).filterMap read = bytes.take n := by
  induction n with
  | zero => rfl
  | succ n ih =>
    have hfirst := ih fun index hi => h index (Nat.lt_succ_of_lt hi)
    rw [List.range_succ, List.filterMap_append, hfirst, List.take_add_one, ← h n n.lt_add_one]
    cases hr : read n <;> simp [hr]

/-- A row says which bytes it holds. -/
theorem readBytes_layout {chunk : List UInt8} (h : chunk.length ≤ rowWidth) :
    readBytes (layout [] chunk) = chunk := by
  rw [readBytes, filterMap_range_eq_take rowWidth fun index hw => readByte?_layout h hw,
    List.take_of_length_le h]

/-- A row holds no more bytes than fit. -/
theorem length_le_of_mem_chunks {payload chunk : List UInt8} (h : chunk ∈ chunks payload) :
    chunk.length ≤ rowWidth := by
  induction payload using chunks.induct with
  | case1 =>
    rw [chunks] at h
    exact absurd h List.not_mem_nil
  | case2 b rest ih =>
    rw [chunks, List.mem_cons] at h
    rcases h with rfl | h
    · exact List.length_take_le rowWidth (b :: rest)
    · exact ih h

/-- The rows hold the payload and nothing else. -/
theorem flatten_chunks (payload : List UInt8) : (chunks payload).flatten = payload := by
  induction payload using chunks.induct with
  | case1 => rw [chunks, List.flatten_nil]
  | case2 b rest ih => rw [chunks, List.flatten_cons, ih, List.take_append_drop]

/-- Each row shows a chunk, behind the label or behind blanks. -/
theorem mem_rows {label row : List Char} {payload : List UInt8} (h : row ∈ rows label payload) :
    ∃ chunk ∈ chunks payload,
      row = layout label chunk ∨ row = layout (List.replicate label.length ' ') chunk := by
  rw [rows] at h
  split at h
  · exact absurd h List.not_mem_nil
  · next first others hc =>
    rw [hc]
    rcases List.mem_cons.mp h with rfl | h
    · exact ⟨first, List.mem_cons_self, .inl rfl⟩
    · obtain ⟨chunk, hm, rfl⟩ := List.mem_map.mp h
      exact ⟨chunk, List.mem_cons_of_mem first hm, .inr rfl⟩

end SerialTerminal.HexDump
