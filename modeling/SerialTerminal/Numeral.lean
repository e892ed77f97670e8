/-!
# Written numbers

Decimal numerals with a minimum width, filled with zeros after the sign or with spaces before it,
and pairs of hexadecimal digits.

Stamps, decimal columns (`SPEC_FULL.md` §4.3) and rows (§4.4a) are put together from them.
-/

namespace SerialTerminal.Numeral

/-- Decimal digits of a natural number. -/
def digits (n : Nat) : List Char := Nat.toDigits 10 n

/-- Characters put in front of a text until it has the given width. -/
def padLeft (fill : Char) (width : Nat) (text : List Char) : List Char :=
  List.replicate (width - text.length) fill ++ text

/-- Decimal numeral of an integer. -/
def ofInt (v : Int) : List Char :=
  if v < 0 then '-' :: digits v.natAbs else digits v.natAbs

/-- Decimal numeral filled with zeros between the sign and the digits. The sign counts in the
width. -/
def zeroPadded (width : Nat) (v : Int) : List Char :=
  if v < 0 then '-' :: padLeft '0' (width - 1) (digits v.natAbs)
  else padLeft '0' width (digits v.natAbs)

/-- Decimal numeral filled with spaces on the left. -/
def spacePadded (width : Nat) (v : Int) : List Char :=
  padLeft ' ' width (ofInt v)

/-- An upper case hexadecimal digit. -/
def hexDigit (n : Nat) : Char :=
  if n < 10 then Char.ofNat (48 + n) else Char.ofNat (55 + n)

/-- The two upper case hexadecimal digits of a byte. -/
def hexPair (b : UInt8) : List Char :=
  [hexDigit (b.toNat / 16), hexDigit (b.toNat % 16)]

end SerialTerminal.Numeral
