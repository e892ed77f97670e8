import SerialTerminal.Binary64
import SerialTerminal.Text.Blank
import SerialTerminal.Text.DecimalDigit

/-!
# Written numbers with a fraction

Reads a decimal numeral, with or without a fraction and an exponent, or a word for an infinity or
for what is not a number. Digits of all scripts count. An underscore may stand between two digits,
white space may stand around the numeral.

The numbers of a configuration file (`SPEC_FULL.md` §10) are read so.
-/

namespace SerialTerminal.Text

/-- A character with digits of all scripts written in ASCII. -/
def asciiDigit (c : Char) : Char :=
  match digitValue? c with
  | some value => Char.ofNat (48 + value)
  | none => c

/-- A text without its underscores, if each of them stands between two digits. The first argument
tells whether a digit comes before. -/
def dropUnderscores : Bool → List Char → Option (List Char)
  | _, [] => some []
  | afterDigit, '_' :: rest =>
    match rest with
    | next :: _ =>
      if afterDigit && isAsciiDigit next then dropUnderscores false rest else none
    | [] => none
  | _, c :: rest => (dropUnderscores (isAsciiDigit c) rest).map (c :: ·)

/-- The value of ASCII digits. -/
def natOfDigits (digits : List Char) : Nat :=
  digits.foldl (fun n c => 10 * n + (c.toNat - 48)) 0

/-- A sign in front of a text, and the text behind it. -/
def takeSign : List Char → Bool × List Char
  | '-' :: rest => (true, rest)
  | '+' :: rest => (false, rest)
  | text => (false, text)

/-- The exponent behind the digits of a numeral. It may be missing, but not be empty. -/
def readExponent? : List Char → Option Int
  | [] => some 0
  | mark :: rest =>
    if mark = 'e' ∨ mark = 'E' then
      let (negative, digits) := takeSign rest
      if digits.isEmpty || !digits.all isAsciiDigit then none
      else some (if negative then -natOfDigits digits else natOfDigits digits)
    else none

/-- An unsigned numeral. -/
def readUnsigned? (negative : Bool) (text : List Char) : Option Binary64 :=
  let whole := text.takeWhile isAsciiDigit
  let afterWhole := text.drop whole.length
  let (fraction, afterFraction) := match afterWhole with
    | '.' :: rest =>
      let fraction := rest.takeWhile isAsciiDigit
      (fraction, rest.drop fraction.length)
    | rest => ([], rest)
  if whole.isEmpty && fraction.isEmpty then none
  else
    (readExponent? afterFraction).map fun exponent =>
      Binary64.ofDecimal negative (natOfDigits (whole ++ fraction)) (exponent - fraction.length)

/-- A signed numeral or word. -/
def readSigned? (text : List Char) : Option Binary64 :=
  let (negative, rest) := takeSign text
  let word := lower rest
  if word = "inf".toList ∨ word = "infinity".toList then some (.infinite negative)
  else if word = "nan".toList then some .notANumber
  else readUnsigned? negative rest

/-- The number that a text denotes. -/
def readFloat? (text : List Char) : Option Binary64 :=
  (dropUnderscores false ((trim isWhiteSpace text).map asciiDigit)).bind readSigned?

end SerialTerminal.Text
