import SerialTerminal.Text.FloatNumeral

/-!
# Written integers

Two readings of integers. `readInteger?` takes digits of all scripts and is used for the command
line. `readLenientInteger` takes ASCII digits and is used where a text is given for a number.

The lenient reading knows a normal form: a minus sign for what is negative, and digits without
zeros at the front. A text in another form is tidied into it first.

The command line is that of `SPEC_FULL.md` §12. The lenient reading is that of the validation
library of §10.
-/

namespace SerialTerminal.Text

/-- The greatest number of digits that is read. -/
def digitLimit : Nat := 4300

/-- The integer with a sign. -/
def withSign (negative : Bool) (n : Nat) : Int := if negative then -n else n

/-- The integer that a text denotes: white space around a sign and digits of any script, with single
underscores between digits. -/
def readInteger? (text : List Char) : Option Int :=
  let (negative, rest) := takeSign ((trim isWhiteSpace text).map asciiDigit)
  match dropUnderscores false rest with
  | none => none
  | some digits =>
    if digits.isEmpty || !digits.all isAsciiDigit || digitLimit < digits.length then none
    else some (withSign negative (natOfDigits digits))

/-- Why a text is no integer. -/
inductive IntegerFault where
  | malformed
  | tooLong
deriving DecidableEq, Repr

/-- The integer of an unsigned text in normal form. Too many digits are a fault of their own,
whatever follows them. -/
def readNormalDigits (negative : Bool) (text : List Char) : Except IntegerFault Int :=
  if text = ['0'] then .ok 0
  else
    let digits := text.takeWhile isAsciiDigit
    if digits.isEmpty || digits.head? = some '0' then .error .malformed
    else if digitLimit < digits.length then .error .tooLong
    else if digits.length < text.length then .error .malformed
    else .ok (withSign negative (natOfDigits digits))

/-- The integer of a text in normal form. -/
def readNormalInteger : List Char → Except IntegerFault Int
  | '-' :: rest => readNormalDigits true rest
  | text => readNormalDigits false text

/-- Holds of the digits from one to nine. -/
def isPositiveDigit (c : Char) : Bool := '1' ≤ c && c ≤ '9'

/-- Passes over zeros and underscores, of which `last` came last, up to a digit or a minus sign. The
last of them stays in front of a point and at the end. -/
def passZeros (last : Char) : List Char → Option (List Char)
  | [] => some [last]
  | c :: rest =>
    if c = '0' || c = '_' then passZeros c rest
    else if c = '.' then some (last :: c :: rest)
    else if c = '-' || isPositiveDigit c then some (c :: rest)
    else none

/-- A text without the zeros at its front. It has to start with a digit. -/
def withoutFrontZeros? : List Char → Option (List Char)
  | [] => none
  | c :: rest =>
    if c = '0' then passZeros c rest
    else if isPositiveDigit c then some (c :: rest)
    else none

/-- A text without the zeros at its front, behind the sign that it may have. -/
def withoutSignedZeros? : List Char → Option (List Char)
  | '-' :: rest => (withoutFrontZeros? rest).map ('-' :: ·)
  | '+' :: rest => withoutFrontZeros? rest
  | text => withoutFrontZeros? text

/-- Holds of a point and one or more zeros. -/
def isZeroFraction : List Char → Bool
  | '.' :: zeros => !zeros.isEmpty && zeros.all (· = '0')
  | _ => false

/-- A text without a fraction of zeros at its end. -/
def withoutZeroFraction (text : List Char) : List Char :=
  let whole := text.takeWhile (· ≠ '.')
  if isZeroFraction (text.drop whole.length) then whole else text

/-- Says whether two underscores follow each other. -/
def hasDoubleUnderscore : List Char → Bool
  | '_' :: '_' :: _ => true
  | _ :: rest => hasDoubleUnderscore rest
  | [] => false

/-- A text without its underscores, if they stand alone and inside the text. -/
def withoutUnderscores (text : List Char) : List Char :=
  if text.head? = some '_' || text.getLast? = some '_' || hasDoubleUnderscore text then text
  else text.filter (· ≠ '_')

/-- A text that may be the normal form of what is meant. -/
def tidyInteger? (text : List Char) : Option (List Char) :=
  (withoutSignedZeros? (trim isWhiteSpace text)).map fun rest =>
    withoutUnderscores (withoutZeroFraction rest)

/-- The integer that a text denotes, as it stands or tidied. Only a text that starts with too many
digits as it stands is too long. -/
def readLenientInteger (text : List Char) : Except IntegerFault Int :=
  match readNormalInteger text with
  | .ok n => .ok n
  | .error .tooLong => .error .tooLong
  | .error .malformed =>
    match (tidyInteger? text).map readNormalInteger with
    | some (.ok n) => .ok n
    | _ => .error .malformed

end SerialTerminal.Text
