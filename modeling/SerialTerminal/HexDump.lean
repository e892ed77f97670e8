import SerialTerminal.Numeral

/-!
# Hexadecimal dumps

A row shows up to twenty bytes: a label, the bytes as pairs of hexadecimal digits in groups of four,
blanks up to a fixed column, and a gutter with the bytes as characters. The gutter starts in the
same column however many bytes a row holds.

    SLIP: 4142                                          AB

A dump is a list of rows. Only its first row carries the label.

These are the rows of `SPEC_FULL.md` §4.4a.
-/

namespace SerialTerminal.HexDump

/-- Number of bytes in a full row. -/
def rowWidth : Nat := 20

/-- Number of bytes in a group. -/
def groupWidth : Nat := 4

/-- A row was asked to hold more bytes than fit. -/
structure RowOverflow where
  length : Nat
deriving DecidableEq, Repr

/-- The wording of a row that does not fit. -/
def RowOverflow.message (e : RowOverflow) : String :=
  s!"a hex row holds at most {rowWidth} bytes, got {e.length}"

/-- The character that the gutter shows for a character code: the codes 30 to 126 show themselves,
all others a full stop (`printable_char`). -/
def gutterChar (code : Int) : Char :=
  if code < 30 ∨ 126 < code then '.' else Char.ofNat code.toNat

/-- The space in front of the first byte of each group. -/
def groupGap (index : Nat) : List Char := if index % groupWidth = 0 then [' '] else []

/-- Hexadecimal digits of the bytes from position `index` on. -/
def hexCells : Nat → List UInt8 → List Char
  | _, [] => []
  | index, b :: rest => groupGap index ++ Numeral.hexPair b ++ hexCells (index + 1) rest

/-- The blanks that take the place of `missing` bytes from position `index` on. -/
def blankCells : Nat → Nat → List Char
  | _, 0 => []
  | index, missing + 1 => groupGap index ++ [' ', ' '] ++ blankCells (index + 1) missing

/-- The layout of a row. -/
def layout (label : List Char) (chunk : List UInt8) : List Char :=
  label ++ hexCells 0 chunk ++ [' ', ' '] ++ blankCells chunk.length (rowWidth - chunk.length)
    ++ chunk.map fun b => gutterChar b.toNat

/-- One row, if it holds all the bytes (`hex_row`). -/
def row (label : List Char) (chunk : List UInt8) : Except RowOverflow (List Char) :=
  if rowWidth < chunk.length then .error ⟨chunk.length⟩ else .ok (layout label chunk)

/-- A list cut into pieces of `rowWidth` elements, the last one possibly shorter. -/
def chunks (bytes : List UInt8) : List (List UInt8) :=
  match bytes with
  | [] => []
  | b :: rest => (b :: rest).take rowWidth :: chunks ((b :: rest).drop rowWidth)
termination_by bytes.length
decreasing_by simp only [rowWidth, List.length_drop, List.length_cons]; omega

/-- The rows of a payload (`hex_dump`). The label stands in the first one and blanks in the
others. -/
def rows (label : List Char) (payload : List UInt8) : List (List Char) :=
  match chunks payload with
  | [] => []
  | first :: others =>
    layout label first :: others.map (layout (List.replicate label.length ' '))

end SerialTerminal.HexDump
