import SerialTerminal.Numeral

/-!
# Decimal columns

Bytes shown as decimal numbers, eighteen to a line. Every byte takes three digits and a space.

This is the way of showing bytes that `SPEC_FULL.md` §4.3 calls Int.
-/

namespace SerialTerminal.DecimalColumns

/-- Number of bytes in a full line. -/
def lineWidth : Nat := 18

/-- One column: the number with at least three places, and a space (`int_column`). -/
def cell (value : Int) : List Char := Numeral.zeroPadded 3 value ++ [' ']

end SerialTerminal.DecimalColumns
