/-!
# Blank characters

Two classes of white space. `isWhiteSpace` is the Unicode property of that name; `isBlank` also
counts the four information separators of ASCII. Trimming removes a class from both ends of a text.

Lines of a configuration file (`SPEC_FULL.md` §10) are trimmed of what is blank, numbers of white
space.
-/

namespace SerialTerminal.Text

/-- Holds of the characters with the Unicode property White_Space. -/
def isWhiteSpace (c : Char) : Bool :=
  let n := c.toNat
  (9 ≤ n && n ≤ 13) || n = 32 || n = 0x85 || n = 0xa0 || n = 0x1680
    || (0x2000 ≤ n && n ≤ 0x200a) || n = 0x2028 || n = 0x2029 || n = 0x202f || n = 0x205f
    || n = 0x3000

/-- Holds of white space and of the information separators. -/
def isBlank (c : Char) : Bool :=
  isWhiteSpace c || (0x1c ≤ c.toNat && c.toNat ≤ 0x1f)

/-- A text without the characters of a class at its end. -/
def trimEnd (blank : Char → Bool) (text : List Char) : List Char :=
  (text.reverse.dropWhile blank).reverse

/-- A text without the characters of a class at its ends. -/
def trim (blank : Char → Bool) (text : List Char) : List Char :=
  trimEnd blank (text.dropWhile blank)

/-- A text without blanks at its ends. -/
def strip (text : List Char) : List Char := trim isBlank text

/-- The part of a text before the first occurrence of a mark, or the whole text. -/
def before (mark : List Char) : List Char → List Char
  | [] => []
  | c :: rest => if mark.isPrefixOf (c :: rest) then [] else c :: before mark rest

/-- A text with the capital letters of ASCII made small. -/
def lower (text : List Char) : List Char := text.map Char.toLower

end SerialTerminal.Text
