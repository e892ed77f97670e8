import SerialTerminal.Text.Printable

/-!
# Quoted text

A text between quotation marks on one line. Single marks are used, or double ones for a text that
holds a single mark and no double one. The mark in use, the backslash and what is not printable are
escaped.

Usage errors (`SPEC_FULL.md` §12) and failures of files name their texts in this form.
-/

namespace SerialTerminal.Text

/-- A lower case hexadecimal digit. -/
def lowerHexDigit (n : Nat) : Char :=
  if n < 10 then Char.ofNat (48 + n) else Char.ofNat (87 + n)

/-- A number in hexadecimal with a fixed number of digits. -/
def lowerHex : Nat → Nat → List Char
  | 0, _ => []
  | places + 1, n => lowerHex places (n / 16) ++ [lowerHexDigit (n % 16)]

/-- A character between two given quotation marks. -/
def quoteChar (mark c : Char) : List Char :=
  if c = mark ∨ c = '\\' then ['\\', c]
  else if c = '\t' then ['\\', 't']
  else if c = '\n' then ['\\', 'n']
  else if c = '\r' then ['\\', 'r']
  else if isPrintable c then [c]
  else if c.toNat < 0x100 then '\\' :: 'x' :: lowerHex 2 c.toNat
  else if c.toNat < 0x10000 then '\\' :: 'u' :: lowerHex 4 c.toNat
  else '\\' :: 'U' :: lowerHex 8 c.toNat

/-- The quotation mark that a text is put between. -/
def quotationMark (text : List Char) : Char :=
  if '\'' ∈ text ∧ '"' ∉ text then '"' else '\''

/-- A text in quotation marks. -/
def quote (text : List Char) : List Char :=
  let mark := quotationMark text
  mark :: text.flatMap (quoteChar mark) ++ [mark]

/-- A string in quotation marks. -/
def quoted (text : String) : String := String.ofList (quote text.toList)

end SerialTerminal.Text
