/-!
# Latin-1 text

One byte for each of the first 256 characters, and none for any other.

Stamps and rows are shown in it (`SPEC_FULL.md` §4.3).
-/

namespace SerialTerminal.Text

/-- The byte of a character. -/
def latin1Byte? (c : Char) : Option UInt8 :=
  if c.toNat < 256 then some (UInt8.ofNat c.toNat) else none

/-- The bytes of a text. -/
def latin1? (text : List Char) : Option (List UInt8) := text.mapM latin1Byte?

end SerialTerminal.Text
