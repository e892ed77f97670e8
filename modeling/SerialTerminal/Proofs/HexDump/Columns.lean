import Mathlib.Data.List.Induction
import SerialTerminal.Proofs.HexDump.Reading

/-!
# The columns of a dump

What stands in which column of a row (`IsRow`). Behind the label each byte has two columns for its
digits, the gutter starts in the same column whatever the number of bytes, and every other column in
front of it is blank. No two texts have all this for the same bytes, so these columns are what a row
is (`row_eq_ok_iff`).

A dump is a row for each slice of its payload. None of the rows is asked for more bytes than fit,
and the columns of digits give the payload back (`dump_columns`).
-/

namespace SerialTerminal.HexDump

open Numeral (hexDigit hexPair)

/-- The column behind the label in which the gutter starts. -/
def gutterColumn : Nat := 47

/-- The hexadecimal digits in upper case. -/
def upperDigits : List Char :=
  ['0', '1', '2', '3', '4', '5', '6', '7', '8', '9', 'A', 'B', 'C', 'D', 'E', 'F']

/-- Holds of a text that shows a chunk behind a label. -/
structure IsRow (label : List Char) (chunk : List UInt8) (cells : List Char) : Prop where
  width : cells.length = label.length + gutterColumn + chunk.length
  front : label <+: cells
  high : ∀ index b, chunk[index]? = some b →
    cells[label.length + byteColumn index]? = upperDigits[b.toNat / 16]?
  low : ∀ index b, chunk[index]? = some b →
    cells[label.length + byteColumn index + 1]? = upperDigits[b.toNat % 16]?
  blank : ∀ column < gutterColumn,
    (∀ index < chunk.length, column ≠ byteColumn index ∧ column ≠ byteColumn index + 1) →
    cells[label.length + column]? = some ' '
  gutter : ∀ index b, chunk[index]? = some b →
    cells[label.length + gutterColumn + index]? =
      some (if 30 ≤ b.toNat ∧ b.toNat ≤ 126 then Char.ofNat b.toNat else '.')

/-- The number of rows for a payload. -/
def rowCount (payload : List UInt8) : Nat := (payload.length + (rowWidth - 1)) / rowWidth

/-- The bytes for a row of a dump, counted from 0. -/
def slice (payload : List UInt8) (n : Nat) : List UInt8 :=
  (payload.drop (rowWidth * n)).take rowWidth

/-- The label of a row of a dump. -/
def rowLabel (label : List Char) (n : Nat) : List Char :=
  if n = 0 then label else List.replicate label.length ' '

/-- Holds of the rows that show a payload. -/
structure IsDump (label : List Char) (payload : List UInt8) (dump : List (List Char)) : Prop where
  count : dump.length = rowCount payload
  /-- A row for each slice, none of which fails. -/
  made : (List.range (rowCount payload)).mapM (fun n => row (rowLabel label n) (slice payload n)) =
    .ok dump
  full : ∀ n, n + 1 < dump.length → (slice payload n).length = rowWidth
  read : (dump.flatMap fun cells => readBytes (cells.drop label.length)) = payload

section Row

variable {label : List Char} {chunk : List UInt8}

/-- Columns are counted behind the label. -/
private theorem getElem?_layout (label : List Char) (chunk : List UInt8) (column : Nat) :
    (layout label chunk)[label.length + column]? = (layout [] chunk)[column]? := by
  rw [layout_eq_append, List.getElem?_append_right (Nat.le_add_right _ _), Nat.add_sub_cancel_left]

private theorem upperDigits_eq : ∀ n < 16, upperDigits[n]? = some (hexDigit n) := by decide

/-- The two columns of a byte hold its digits. -/
private theorem digits_layout {index : Nat} {b : UInt8} (h : chunk[index]? = some b) :
    (layout [] chunk)[byteColumn index]? = upperDigits[b.toNat / 16]? ∧
      (layout [] chunk)[byteColumn index + 1]? = upperDigits[b.toNat % 16]? := by
  have hb := b.toNat_lt
  obtain ⟨rest, hrest⟩ := exists_drop_layout h
  rw [upperDigits_eq _ (by omega), upperDigits_eq _ (by omega)]
  constructor
  · rw [← Nat.add_zero (byteColumn index), ← List.getElem?_drop, hrest]
    rfl
  · rw [← List.getElem?_drop, hrest]
    rfl

/-- The gap in front of a group is blank. -/
private theorem eq_blank_of_getElem?_groupGap {index column : Nat} {c : Char}
    (h : (groupGap index)[column]? = some c) : c = ' ' := by
  have hmem := List.mem_of_getElem? h
  rw [groupGap] at hmem
  split at hmem
  · exact List.mem_singleton.mp hmem
  · exact absurd hmem List.not_mem_nil

/-- Up to the last digit every column that is no digit's is blank. -/
private theorem hexCells_eq_blank {column : Nat} (hc : column < (hexCells 0 chunk).length)
    (h : ∀ index < chunk.length, column ≠ byteColumn index ∧ column ≠ byteColumn index + 1) :
    (hexCells 0 chunk)[column]? = some ' ' := by
  induction chunk using List.reverseRecOn with
  | nil => exact absurd hc (Nat.not_lt_zero column)
  | append_singleton before b ih =>
    have hpair : (hexPair b).length = 2 := rfl
    have hgap : (hexCells 0 before).length + (groupGap before.length).length =
        byteColumn before.length := by
      rw [← List.length_append, length_hexCells_groupGap]
    have hlast := h before.length (by simp)
    rw [hexCells_append, Nat.zero_add, hexCells, hexCells, List.append_nil] at hc ⊢
    simp only [List.length_append, hpair] at hc
    by_cases hbefore : column < (hexCells 0 before).length
    · rw [List.getElem?_append_left hbefore]
      refine ih hbefore fun index hi => h index ?_
      rw [List.length_append]
      exact Nat.lt_add_right _ hi
    · have hin : column - (hexCells 0 before).length < (groupGap before.length).length := by omega
      rw [List.getElem?_append_right (by omega), List.getElem?_append_left hin]
      rw [List.getElem?_eq_getElem hin, Option.some.injEq]
      exact eq_blank_of_getElem?_groupGap (List.getElem?_eq_getElem hin)

/-- Every column in front of the gutter that is no digit's is blank. -/
private theorem layout_blank (hlength : chunk.length ≤ rowWidth) {column : Nat}
    (hc : column < gutterColumn)
    (h : ∀ index < chunk.length, column ≠ byteColumn index ∧ column ≠ byteColumn index + 1) :
    (layout [] chunk)[column]? = some ' ' := by
  obtain ⟨gutter, hgutter⟩ := layout_eq_blank hlength
  rw [hgutter]
  by_cases hcells : column < (hexCells 0 chunk).length
  · rw [List.getElem?_append_left hcells]
    exact hexCells_eq_blank hcells h
  · have hroom : column - (hexCells 0 chunk).length < 47 - (hexCells 0 chunk).length := by
      simp only [gutterColumn] at hc
      omega
    rw [List.getElem?_append_right (by omega),
      List.getElem?_append_left (by rwa [List.length_replicate]), List.getElem?_replicate,
      if_pos hroom]

/-- The gutter holds a character for each byte. -/
private theorem drop_gutterColumn_layout (hlength : chunk.length ≤ rowWidth) :
    (layout [] chunk).drop gutterColumn = chunk.map fun b => gutterChar b.toNat := by
  let front := [] ++ hexCells 0 chunk ++ [' ', ' '] ++
    blankCells chunk.length (rowWidth - chunk.length)
  have hsplit : layout [] chunk = front ++ chunk.map fun b => gutterChar b.toNat := rfl
  have hfront : front.length = gutterColumn := by
    have hl := length_layout [] hlength
    rw [hsplit, List.length_append, List.length_map] at hl
    simp only [List.length_nil, gutterColumn] at hl ⊢
    omega
  rw [hsplit, List.drop_left' hfront]

private theorem gutterChar_eq (b : UInt8) :
    gutterChar b.toNat = if 30 ≤ b.toNat ∧ b.toNat ≤ 126 then Char.ofNat b.toNat else '.' := by
  unfold gutterChar
  split <;> split
  · omega
  · rfl
  · rfl
  · omega

/-- The layout of a row shows its bytes. -/
theorem isRow_layout (label : List Char) (h : chunk.length ≤ rowWidth) :
    IsRow label chunk (layout label chunk) where
  width := length_layout label h
  front := ⟨layout [] chunk, (layout_eq_append label chunk).symm⟩
  high index b hb := by rw [getElem?_layout, (digits_layout hb).1]
  low index b hb := by rw [Nat.add_assoc, getElem?_layout, (digits_layout hb).2]
  blank column hc hfree := by rw [getElem?_layout, layout_blank h hc hfree]
  gutter index b hb := by
    rw [Nat.add_assoc, getElem?_layout, ← List.getElem?_drop, drop_gutterColumn_layout h,
      List.getElem?_map, hb, Option.map_some, gutterChar_eq]

/-- There is one text that shows a chunk behind a label. -/
theorem IsRow.unique {xs ys : List Char} (hx : IsRow label chunk xs) (hy : IsRow label chunk ys) :
    xs = ys := by
  apply List.ext_getElem?
  intro column
  by_cases hlabel : column < label.length
  · obtain ⟨xs, rfl⟩ := hx.front
    obtain ⟨ys, rfl⟩ := hy.front
    rw [List.getElem?_append_left hlabel, List.getElem?_append_left hlabel]
  · obtain ⟨column, rfl⟩ := Nat.exists_eq_add_of_le (Nat.not_lt.mp hlabel)
    by_cases hcolumn : column < gutterColumn
    · by_cases hfree : ∀ index < chunk.length,
          column ≠ byteColumn index ∧ column ≠ byteColumn index + 1
      · rw [hx.blank column hcolumn hfree, hy.blank column hcolumn hfree]
      · -- The column is one of the two of some byte.
        simp only [not_forall, not_and_or, not_not] at hfree
        obtain ⟨index, hi, rfl | rfl⟩ := hfree
        · have hb := List.getElem?_eq_getElem hi
          rw [hx.high index _ hb, hy.high index _ hb]
        · have hb := List.getElem?_eq_getElem hi
          rw [← Nat.add_assoc, hx.low index _ hb, hy.low index _ hb]
    · obtain ⟨index, rfl⟩ := Nat.exists_eq_add_of_le (Nat.not_lt.mp hcolumn)
      rw [← Nat.add_assoc]
      by_cases hi : index < chunk.length
      · have hb := List.getElem?_eq_getElem hi
        rw [hx.gutter index _ hb, hy.gutter index _ hb]
      · rw [List.getElem?_eq_none (by rw [hx.width]; omega),
          List.getElem?_eq_none (by rw [hy.width]; omega)]

/-- A row comes about if its bytes fit, and is the text that shows them. -/
theorem row_eq_ok_iff {cells : List Char} :
    row label chunk = .ok cells ↔ chunk.length ≤ rowWidth ∧ IsRow label chunk cells := by
  constructor
  · intro h
    rw [row] at h
    split at h
    · cases h
    · next hlength =>
      obtain rfl := Except.ok.inj h
      exact ⟨Nat.not_lt.mp hlength, isRow_layout label (Nat.not_lt.mp hlength)⟩
  · rintro ⟨hlength, hrow⟩
    rw [row_of_length_le label hlength, hrow.unique (isRow_layout label hlength)]

end Row

section Dump

/-- No slice has more bytes than fit into a row. -/
theorem length_slice_le (payload : List UInt8) (n : Nat) : (slice payload n).length ≤ rowWidth :=
  List.length_take_le rowWidth (payload.drop (rowWidth * n))

private theorem length_rowLabel (label : List Char) (n : Nat) :
    (rowLabel label n).length = label.length := by
  rw [rowLabel]
  split
  · rfl
  · exact List.length_replicate

/-- The chunks of a payload are its slices. -/
theorem chunks_eq_slices (payload : List UInt8) :
    chunks payload = (List.range (rowCount payload)).map (slice payload) := by
  induction payload using chunks.induct with
  | case1 =>
    rw [chunks]
    rfl
  | case2 b rest ih =>
    have hcount : rowCount (b :: rest) = rowCount ((b :: rest).drop rowWidth) + 1 := by
      simp only [rowCount, rowWidth, List.length_drop, List.length_cons]
      omega
    have hslice (n : Nat) : slice ((b :: rest).drop rowWidth) n = slice (b :: rest) (n + 1) := by
      rw [slice, slice, List.drop_drop, Nat.mul_succ, Nat.add_comm]
    rw [chunks, ih, hcount, List.range_succ_eq_map, List.map_cons, List.map_map]
    exact congrArg _ (List.map_congr_left fun n _ => hslice n)

/-- A dump lays out the slices of its payload. -/
theorem rows_eq_map (label : List Char) (payload : List UInt8) :
    rows label payload = (List.range (rowCount payload)).map fun n =>
      layout (rowLabel label n) (slice payload n) := by
  rw [rows, chunks_eq_slices]
  cases rowCount payload with
  | zero => rfl
  | succ n =>
    simp only [List.range_succ_eq_map, List.map_cons, List.map_map]
    rfl

/-- The rows of a payload show it. -/
theorem isDump_rows (label : List Char) (payload : List UInt8) :
    IsDump label payload (rows label payload) where
  count := by rw [rows_eq_map, List.length_map, List.length_range]
  made := by
    have hrow : (fun n => row (rowLabel label n) (slice payload n)) = fun n =>
        pure (layout (rowLabel label n) (slice payload n)) :=
      funext fun n => row_of_length_le _ (length_slice_le payload n)
    rw [hrow, List.mapM_pure, rows_eq_map]
    rfl
  full n hn := by
    rw [rows_eq_map, List.length_map, List.length_range] at hn
    simp only [rowCount, rowWidth, slice, List.length_take, List.length_drop] at hn ⊢
    omega
  read := by
    have hread (n : Nat) :
        readBytes ((layout (rowLabel label n) (slice payload n)).drop label.length) =
          slice payload n := by
      rw [layout_eq_append, List.drop_left' (length_rowLabel label n),
        readBytes_layout (length_slice_le payload n)]
    rw [rows_eq_map, List.flatMap_map]
    simp only [hread]
    rw [List.flatMap_def, ← chunks_eq_slices, flatten_chunks]

/-- A row comes about just if its bytes fit, and every row is the text whose columns show its label
and its bytes. The rows of any payload all come about, as many as it takes, and give it back. -/
theorem dump_columns (label : List Char) :
    (∀ chunk, (∃ cells, row label chunk = .ok cells) ↔ chunk.length ≤ rowWidth) ∧
    (∀ chunk cells, row label chunk = .ok cells ↔
      chunk.length ≤ rowWidth ∧ IsRow label chunk cells) ∧
    ∀ payload, IsDump label payload (rows label payload) := by
  refine ⟨fun chunk => ?_, fun chunk cells => row_eq_ok_iff, isDump_rows label⟩
  constructor
  · rintro ⟨cells, h⟩
    exact (row_eq_ok_iff.mp h).1
  · intro h
    exact ⟨_, row_eq_ok_iff.mpr ⟨h, isRow_layout label h⟩⟩

end Dump

end SerialTerminal.HexDump
