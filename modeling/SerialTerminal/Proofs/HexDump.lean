import SerialTerminal.HexDump
import SerialTerminal.Text.Latin1

/-!
# Rows as bytes

Behind its label a row of hexadecimal digits holds nothing but the characters that a gutter can
show, whatever the bytes are. So every character of a row is written as one byte, as long as this
holds of its label, and no row has a line end in it. The width of a row depends on its label and on
the number of its bytes alone.
-/

namespace SerialTerminal

namespace Text

/-- The bytes of a text whose characters have one byte each. -/
def latin1 (text : List Char) : List UInt8 := text.map fun c => UInt8.ofNat c.toNat

/-- Holds of the characters that have one byte. -/
def IsLatin1 (c : Char) : Prop := c.toNat < 256

instance : DecidablePred IsLatin1 := fun c => inferInstanceAs (Decidable (c.toNat < 256))

/-- Of a given text it can be checked. -/
theorem isLatin1_of_all {text : List Char} (h : (text.all fun c => decide (IsLatin1 c)) = true) :
    ∀ c ∈ text, IsLatin1 c :=
  fun c hc => of_decide_eq_true (List.all_eq_true.mp h c hc)

/-- A text has bytes if each of its characters has one. -/
theorem latin1?_eq_some {text : List Char} (h : ∀ c ∈ text, IsLatin1 c) :
    latin1? text = some (latin1 text) := by
  induction text with
  | nil => rfl
  | cons c rest ih =>
    have hc : latin1Byte? c = some (UInt8.ofNat c.toNat) := if_pos (h c List.mem_cons_self)
    have hr := ih fun x hx => h x (List.mem_cons_of_mem c hx)
    rw [latin1?] at hr ⊢
    rw [List.mapM_cons, hc, hr]
    rfl

/-- The characters of bytes. -/
def ofLatin1 (bytes : List UInt8) : List Char := bytes.map fun b => Char.ofNat b.toNat

/-- A text whose characters have one byte each is known by its bytes. -/
theorem ofLatin1_latin1 {text : List Char} (h : ∀ c ∈ text, IsLatin1 c) :
    ofLatin1 (latin1 text) = text := by
  have hchar : ∀ c ∈ text, Char.ofNat (UInt8.ofNat c.toNat).toNat = id c := by
    intro c hc
    have hn : (UInt8.ofNat c.toNat).toNat = c.toNat := UInt8.toNat_ofNat_of_lt (h c hc)
    rw [hn, Char.ofNat_toNat, id_eq]
  rw [ofLatin1, latin1, List.map_map]
  exact (List.map_congr_left hchar).trans (List.map_id text)

end Text

namespace HexDump

open Text

/-- Holds of the characters that can stand behind the label of a row. -/
def IsCell (c : Char) : Prop := 30 ≤ c.toNat ∧ c.toNat ≤ 126

instance : DecidablePred IsCell := fun c =>
  inferInstanceAs (Decidable (30 ≤ c.toNat ∧ c.toNat ≤ 126))

/-- They have one byte. -/
theorem IsCell.isLatin1 {c : Char} (h : IsCell c) : IsLatin1 c := Nat.lt_of_le_of_lt h.2 (by decide)

private theorem isCell_ofNat {n : Nat} (hl : 30 ≤ n) (hu : n ≤ 126) : IsCell (Char.ofNat n) := by
  have hv : n.isValidChar := .inl (by omega)
  rw [IsCell, Char.ofNat, dif_pos hv]
  exact ⟨hl, hu⟩

private theorem isCell_hexDigit {n : Nat} (h : n < 16) : IsCell (Numeral.hexDigit n) := by
  unfold Numeral.hexDigit
  split
  · exact isCell_ofNat (by omega) (by omega)
  · exact isCell_ofNat (by omega) (by omega)

private theorem isCell_hexPair (b : UInt8) : ∀ c ∈ Numeral.hexPair b, IsCell c := by
  have hb := b.toNat_lt
  intro c hc
  rw [Numeral.hexPair, List.mem_cons, List.mem_singleton] at hc
  rcases hc with rfl | rfl
  · exact isCell_hexDigit (by omega)
  · exact isCell_hexDigit (by omega)

private theorem isCell_gutterChar (b : UInt8) : IsCell (gutterChar b.toNat) := by
  unfold gutterChar
  split
  · decide
  · exact isCell_ofNat (by omega) (by omega)

private theorem isCell_groupGap (index : Nat) : ∀ c ∈ groupGap index, IsCell c := by
  intro c hc
  unfold groupGap at hc
  split at hc
  · rw [List.mem_singleton.mp hc]
    decide
  · exact absurd hc List.not_mem_nil

private theorem isCell_hexCells (index : Nat) (bytes : List UInt8) :
    ∀ c ∈ hexCells index bytes, IsCell c := by
  induction bytes generalizing index with
  | nil => exact fun c hc => absurd hc List.not_mem_nil
  | cons b rest ih =>
    intro c hc
    rw [hexCells, List.mem_append, List.mem_append] at hc
    rcases hc with (hc | hc) | hc
    · exact isCell_groupGap index c hc
    · exact isCell_hexPair b c hc
    · exact ih (index + 1) c hc

private theorem isCell_blankCells (index missing : Nat) :
    ∀ c ∈ blankCells index missing, IsCell c := by
  induction missing generalizing index with
  | zero => exact fun c hc => absurd hc List.not_mem_nil
  | succ missing ih =>
    intro c hc
    rw [blankCells, List.mem_append, List.mem_append] at hc
    rcases hc with (hc | hc) | hc
    · exact isCell_groupGap index c hc
    · obtain rfl : c = ' ' := by simpa using hc
      decide
    · exact ih (index + 1) c hc

/-- What stands in a row is its label and cells. -/
theorem mem_layout {label : List Char} {chunk : List UInt8} {c : Char}
    (h : c ∈ layout label chunk) : c ∈ label ∨ IsCell c := by
  simp only [layout, List.mem_append] at h
  rcases h with (((h | h) | h) | h) | h
  · exact .inl h
  · exact .inr (isCell_hexCells 0 chunk c h)
  · obtain rfl : c = ' ' := by simpa using h
    exact .inr (by decide)
  · exact .inr (isCell_blankCells _ _ c h)
  · obtain ⟨b, _, rfl⟩ := List.mem_map.mp h
    exact .inr (isCell_gutterChar b)

/-- A row has one byte for each of its characters if its label has. -/
theorem isLatin1_layout {label : List Char} (h : ∀ c ∈ label, IsLatin1 c) (chunk : List UInt8) :
    ∀ c ∈ layout label chunk, IsLatin1 c := by
  intro c hc
  rcases mem_layout hc with hc | hc
  · exact h c hc
  · exact hc.isLatin1

/-- The rows of a payload have one byte for each of their characters if their label has. -/
theorem isLatin1_rows {label : List Char} (h : ∀ c ∈ label, IsLatin1 c) (payload : List UInt8) :
    ∀ row ∈ rows label payload, ∀ c ∈ row, IsLatin1 c := by
  intro row hrow
  unfold rows at hrow
  split at hrow
  · exact absurd hrow List.not_mem_nil
  · next first others _ =>
    rcases List.mem_cons.mp hrow with rfl | hrow
    · exact isLatin1_layout h first
    · obtain ⟨chunk, _, rfl⟩ := List.mem_map.mp hrow
      refine isLatin1_layout ?_ chunk
      intro c hc
      rw [List.eq_of_mem_replicate hc]
      decide

private theorem blankCells_add (index m n : Nat) :
    blankCells index (m + n) = blankCells index m ++ blankCells (index + m) n := by
  induction m generalizing index with
  | zero => rw [Nat.zero_add, Nat.add_zero, blankCells, List.nil_append]
  | succ m ih =>
    have hi : index + 1 + m = index + (m + 1) := by omega
    rw [Nat.add_right_comm, blankCells, blankCells, ih, hi, List.append_assoc _ (blankCells _ m)]

/-- A byte takes as much room as the blanks in its place. -/
private theorem length_hexCells (index : Nat) (bytes : List UInt8) :
    (hexCells index bytes).length = (blankCells index bytes.length).length := by
  induction bytes generalizing index with
  | nil => rfl
  | cons b rest ih =>
    rw [hexCells, List.length_cons, blankCells, List.length_append, List.length_append, ih,
      List.length_append, List.length_append]
    rfl

/-- A row is laid out if all its bytes fit. -/
theorem row_of_length_le (label : List Char) {chunk : List UInt8} (h : chunk.length ≤ rowWidth) :
    row label chunk = .ok (layout label chunk) := if_neg (Nat.not_lt.mpr h)

/-- The width of a row. Its gutter starts in the same column however many bytes it holds. -/
theorem length_layout (label : List Char) {chunk : List UInt8} (h : chunk.length ≤ rowWidth) :
    (layout label chunk).length = label.length + 47 + chunk.length := by
  have hb : (hexCells 0 chunk).length + (blankCells chunk.length (rowWidth - chunk.length)).length
      = 45 := by
    have hn : chunk.length + (rowWidth - chunk.length) = rowWidth := by omega
    have ha := blankCells_add 0 chunk.length (rowWidth - chunk.length)
    rw [hn, Nat.zero_add] at ha
    rw [length_hexCells, ← List.length_append, ← ha]
    rfl
  simp only [layout, List.length_append, List.length_cons, List.length_nil, List.length_map]
  omega

end HexDump

end SerialTerminal
