import SerialTerminal.DecimalColumns
import SerialTerminal.Proofs.HexDump

/-!
# Columns of decimals

The bytes of a stream in decimal columns. Every column is four bytes wide, and every eighteenth ends
its line. So a stream is written in lines, one for each piece of eighteen bytes and one for what is
left (`columns_append`, `columns_of_length_lt`), and it is read back from them
(`readColumns_columns`).
-/

namespace SerialTerminal

namespace DecimalColumns

/-- The column of a byte: its hundreds, tens and ones, and a space. -/
def column (b : UInt8) : List UInt8 := [48 + b / 100, 48 + b / 10 % 10, 48 + b % 10, 32]

/-- The line feed behind the column at a position, if it is the last of its line. -/
def lineEnd (index : Nat) : List UInt8 := if index % lineWidth = lineWidth - 1 then [10] else []

/-- The columns of the bytes that stand in a stream from a position on. -/
def columnsFrom (index : Nat) (stream : List UInt8) : List UInt8 :=
  (stream.zipIdx index).flatMap fun (b, i) => column b ++ lineEnd i

/-- The columns of a stream. -/
def columns (stream : List UInt8) : List UInt8 := columnsFrom 0 stream

/-- The line of a piece of a stream. Only a full line is ended. -/
def lineOf (piece : List UInt8) : List UInt8 :=
  piece.flatMap column ++ if piece.length = lineWidth then [10] else []

/-- The bytes whose columns some text shows, over its lines. -/
def readColumns : List UInt8 → List UInt8
  | [] => []
  | 10 :: rest => readColumns rest
  | hundreds :: tens :: ones :: _ :: rest =>
    (100 * (hundreds - 48) + 10 * (tens - 48) + (ones - 48)) :: readColumns rest
  | _ => []

section Text

private theorem forall_byte {P : UInt8 → Prop} (h : ∀ n < 256, P (UInt8.ofNat n)) (b : UInt8) :
    P b := by
  rw [← UInt8.ofNat_toNat (x := b)]
  exact h b.toNat b.toNat_lt

/-- Decimal numerals fill their columns. -/
theorem latin1_cell (b : UInt8) : Text.latin1 (cell b.toNat) = column b :=
  forall_byte (P := fun b => Text.latin1 (cell b.toNat) = column b) (by decide +kernel) b

/-- They are written in characters that have a byte. -/
theorem isLatin1_cell (b : UInt8) : ∀ c ∈ cell b.toNat, Text.IsLatin1 c :=
  Text.isLatin1_of_all (forall_byte
    (P := fun b => (cell b.toNat).all fun c => decide (Text.IsLatin1 c)) (by decide +kernel) b)

/-- No column has a line feed in it. -/
theorem lineFeed_not_mem_column (b : UInt8) : 10 ∉ column b :=
  forall_byte (P := fun b => 10 ∉ column b) (by decide +kernel) b

/-- A byte is read back from its column. -/
theorem readColumns_column (b : UInt8) (rest : List UInt8) :
    readColumns (column b ++ rest) = b :: readColumns rest := by
  have hvalue : 100 * (48 + b / 100 - 48) + 10 * (48 + b / 10 % 10 - 48) + (48 + b % 10 - 48) = b :=
    forall_byte (P := fun b =>
      100 * (48 + b / 100 - 48) + 10 * (48 + b / 10 % 10 - 48) + (48 + b % 10 - 48) = b)
      (by decide +kernel) b
  have hdigit : 48 + b / 100 ≠ 10 := fun h => lineFeed_not_mem_column b (h ▸ List.mem_cons_self)
  simp only [column, List.cons_append, List.nil_append]
  rw [readColumns, hvalue]
  exact hdigit

end Text

section Stream

variable {index : Nat} {stream piece : List UInt8}

/-- The first column, and those behind it. -/
theorem columnsFrom_cons (index : Nat) (b : UInt8) (rest : List UInt8) :
    columnsFrom index (b :: rest) = column b ++ lineEnd index ++ columnsFrom (index + 1) rest := rfl

/-- Columns go on where others stop. -/
theorem columnsFrom_append (index : Nat) (front rest : List UInt8) :
    columnsFrom index (front ++ rest) =
      columnsFrom index front ++ columnsFrom (index + front.length) rest := by
  rw [columnsFrom, List.zipIdx_append, List.flatMap_append]
  rfl

/-- A full line later the columns are the same. -/
theorem columnsFrom_lineWidth (index : Nat) (stream : List UInt8) :
    columnsFrom (index + lineWidth) stream = columnsFrom index stream := by
  induction stream generalizing index with
  | nil => rfl
  | cons b rest ih =>
    have hend : lineEnd (index + lineWidth) = lineEnd index := by
      rw [lineEnd, lineEnd, Nat.add_mod_right]
    rw [columnsFrom_cons, columnsFrom_cons, hend, Nat.add_right_comm, ih]

private theorem columnsFrom_of_lt (h : index + stream.length < lineWidth) :
    columnsFrom index stream = stream.flatMap column := by
  induction stream generalizing index with
  | nil => rfl
  | cons b rest ih =>
    rw [List.length_cons] at h
    have hend : lineEnd index = [] := by
      rw [lineEnd, Nat.mod_eq_of_lt (by omega)]
      exact if_neg (by omega)
    rw [columnsFrom_cons, hend, List.append_nil, ih (by omega), List.flatMap_cons]

/-- What is less than a line stays in one line. -/
theorem columns_of_length_lt (h : piece.length < lineWidth) :
    columns piece = lineOf piece := by
  rw [columns, columnsFrom_of_lt (by omega), lineOf, if_neg (Nat.ne_of_lt h), List.append_nil]

/-- A line that is full is ended, and what follows is another one. -/
theorem columns_append (h : piece.length = lineWidth) (rest : List UInt8) :
    columns (piece ++ rest) = lineOf piece ++ columns rest := by
  have hne : piece ≠ [] := List.ne_nil_of_length_pos (h ▸ by decide)
  obtain ⟨front, last, rfl⟩ : ∃ front last, piece = front ++ [last] :=
    ⟨_, _, (List.dropLast_concat_getLast hne).symm⟩
  have hfront : front.length = lineWidth - 1 := by
    rw [List.length_append, List.length_singleton] at h
    omega
  have hpiece : columns (front ++ [last]) = lineOf (front ++ [last]) := by
    have hlast : lineEnd (0 + front.length) = [10] := by
      rw [Nat.zero_add, hfront]
      rfl
    rw [columns, columnsFrom_append, columnsFrom_of_lt (by rw [hfront]; decide), columnsFrom_cons,
      hlast, lineOf, if_pos h, List.flatMap_append, List.flatMap_singleton]
    simp [columnsFrom]
  have hrest : columnsFrom (0 + (front ++ [last]).length) rest = columns rest := by
    rw [h]
    exact columnsFrom_lineWidth 0 rest
  rw [columns, columnsFrom_append, hrest]
  exact congrArg (· ++ columns rest) hpiece

/-- A stream is read back from its columns. -/
theorem readColumns_columns (stream : List UInt8) : readColumns (columns stream) = stream := by
  suffices h : ∀ index, readColumns (columnsFrom index stream) = stream from h 0
  induction stream with
  | nil => exact fun _ => rfl
  | cons b rest ih =>
    intro index
    rw [columnsFrom_cons, List.append_assoc, readColumns_column, lineEnd]
    split
    · exact congrArg (b :: ·) (ih (index + 1))
    · exact congrArg (b :: ·) (ih (index + 1))

/-- Streams with the same columns are the same. -/
theorem columns_injective : Function.Injective columns :=
  Function.LeftInverse.injective readColumns_columns

/-- A stream is written in lines: one for each piece of so many bytes, and one for what is left. -/
theorem exists_lines_columns (stream : List UInt8) :
    ∃ (full : List (List UInt8)) (rest : List UInt8), full.flatten ++ rest = stream ∧
      (∀ piece ∈ full, piece.length = lineWidth) ∧
      rest.length < lineWidth ∧ columns stream = full.flatMap lineOf ++ lineOf rest := by
  induction hn : stream.length using Nat.strongRecOn generalizing stream with
  | ind n ih =>
    by_cases hshort : stream.length < lineWidth
    · exact ⟨[], stream, rfl, fun _ h => absurd h List.not_mem_nil, hshort,
        columns_of_length_lt hshort⟩
    · have htake : (stream.take lineWidth).length = lineWidth :=
        List.length_take_of_le (Nat.le_of_not_lt hshort)
      have hpos : 0 < lineWidth := by decide
      obtain ⟨full, rest, hstream, hfull, hrest, hcolumns⟩ :=
        ih (stream.drop lineWidth).length (by rw [List.length_drop]; omega) _ rfl
      refine ⟨stream.take lineWidth :: full, rest, ?_, ?_, hrest, ?_⟩
      · rw [List.flatten_cons, List.append_assoc, hstream, List.take_append_drop]
      · exact List.forall_mem_cons.mpr ⟨htake, hfull⟩
      · calc columns stream
            = columns (stream.take lineWidth ++ stream.drop lineWidth) := by
              rw [List.take_append_drop]
          _ = (stream.take lineWidth :: full).flatMap lineOf ++ lineOf rest := by
              rw [columns_append htake, hcolumns, List.flatMap_cons, List.append_assoc]

end Stream

end DecimalColumns

end SerialTerminal
