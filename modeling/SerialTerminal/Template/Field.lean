import SerialTerminal.Decimal
import SerialTerminal.Text.Quoted

/-!
# Fields of a template

A field writes one argument. Its letter says how: as text, as quoted text, as an integer in some
base, as a number with a fraction or as a character. Flags, a width and a precision say how it is
filled up. What is written has to fit in the room that the machine has for it.

Records are written with templates of this kind (`SPEC_FULL.md` §13).
-/

namespace SerialTerminal.Template

/-- What a field can write. -/
inductive Argument where
  | none
  | bool (b : Bool)
  | int (n : Int)
  | float (x : Binary64)
  | text (s : String)
  | list (items : List Argument)
  | table (entries : List (String × Argument))
deriving Inhabited, Repr

/-- Why a template cannot be written. -/
inductive Error where
  | tooFewArguments
  | tooManyArguments
  | needsNames
  | needsInteger (letter : Char) (found : String)
  | needsNumber (letter : Char) (found : String)
  | needsFraction (found : String)
  | noInteger (cause : Binary64.IntegerError)
  | integerTooLarge
  | needsCharacter
  | noSuchCharacter
  | widthNotInteger
  | starWidthTooLarge
  | starPrecisionTooLarge
  | widthTooBig
  | precisionTooBig
  | tooManyDigits
  | outOfMemory
  | incomplete
  | unknownLetter (letter : Char) (index : Nat)
deriving DecidableEq, Repr

/-- The wording of an error. -/
def Error.message : Error → String
  | .tooFewArguments => "not enough arguments for format string"
  | .tooManyArguments => "not all arguments converted during string formatting"
  | .needsNames => "format requires a mapping"
  | .needsInteger letter found => s!"%{letter} format: an integer is required, not {found}"
  | .needsNumber letter found => s!"%{letter} format: a real number is required, not {found}"
  | .needsFraction found => s!"must be real number, not {found}"
  | .noInteger cause => cause.message
  | .integerTooLarge => "int too large to convert to float"
  | .needsCharacter => "%c requires int or char"
  | .noSuchCharacter => "%c arg not in range(0x110000)"
  | .widthNotInteger => "* wants int"
  | .starWidthTooLarge => "Python int too large to convert to C ssize_t"
  | .starPrecisionTooLarge => "Python int too large to convert to C int"
  | .widthTooBig => "width too big"
  | .precisionTooBig => "precision too big"
  | .tooManyDigits => "precision too large"
  | .outOfMemory => ""
  | .incomplete => "incomplete format"
  | .unknownLetter letter index =>
    let shown := if 31 ≤ letter.toNat ∧ letter.toNat < 127 then letter else '?'
    let code := String.ofList (Nat.toDigits 16 letter.toNat)
    s!"unsupported format character '{shown}' (0x{code}) at index {index}"

/-- How a field is filled up. -/
structure Field where
  leftAligned : Bool := false
  plus : Bool := false
  blank : Bool := false
  alternate : Bool := false
  zeros : Bool := false
  width : Nat := 0
  precision : Option Nat := none
deriving DecidableEq, Repr

namespace Argument

/-- The name of an argument's type. -/
def typeName : Argument → String
  | .none => "NoneType"
  | .bool _ => "bool"
  | .int _ => "int"
  | .float _ => "float"
  | .text _ => "str"
  | .list _ => "list"
  | .table _ => "dict"

/-- A sign, if there is one. -/
def signOf (negative : Bool) : List Char := if negative then ['-'] else []

/-- A number in the shortest numeral that reads back. -/
def shortest : Binary64 → List Char
  | .finite negative m e => signOf negative ++ Decimal.shortestNumeral m e
  | .infinite negative => signOf negative ++ "inf".toList
  | .notANumber => "nan".toList

mutual

/-- An argument with text in quotation marks. -/
def quoted : Argument → List Char
  | .none => "None".toList
  | .bool true => "True".toList
  | .bool false => "False".toList
  | .int n => Numeral.ofInt n
  | .float x => shortest x
  | .text s => Text.quote s.toList
  | .list items => '[' :: quotedItems items ++ [']']
  | .table entries => '\x7b' :: quotedEntries entries ++ ['\x7d']

/-- Arguments with commas between them. -/
def quotedItems : List Argument → List Char
  | [] => []
  | [a] => a.quoted
  | a :: b :: rest => a.quoted ++ [',', ' '] ++ quotedItems (b :: rest)

/-- Named arguments with commas between them. -/
def quotedEntries : List (String × Argument) → List Char
  | [] => []
  | [(name, a)] => Text.quote name.toList ++ [':', ' '] ++ a.quoted
  | (name, a) :: b :: rest =>
    Text.quote name.toList ++ [':', ' '] ++ a.quoted ++ [',', ' '] ++ quotedEntries (b :: rest)

end

/-- An argument as it is read. -/
def plain : Argument → List Char
  | .text s => s.toList
  | other => other.quoted

/-- A character in ASCII. -/
def asciiForm (c : Char) : List Char :=
  if c.toNat < 0x80 then [c]
  else if c.toNat < 0x100 then '\\' :: 'x' :: Text.lowerHex 2 c.toNat
  else if c.toNat < 0x10000 then '\\' :: 'u' :: Text.lowerHex 4 c.toNat
  else '\\' :: 'U' :: Text.lowerHex 8 c.toNat

/-- The integer that an argument is. Booleans are zero and one. -/
def integer? : Argument → Option Int
  | .bool b => some (if b then 1 else 0)
  | .int n => some n
  | _ => Option.none

end Argument

namespace Field

/-- A text filled up with spaces. -/
def align (field : Field) (text : List Char) : List Char :=
  let fill := List.replicate (field.width - text.length) ' '
  if field.leftAligned then text ++ fill else fill ++ text

/-- A text cut at the precision and filled up. -/
def writeText (field : Field) (text : List Char) : List Char :=
  field.align (match field.precision with
    | some places => text.take places
    | none => text)

/-- The sign of a number. -/
def sign (field : Field) (negative : Bool) : List Char :=
  if negative then ['-'] else if field.plus then ['+'] else if field.blank then [' '] else []

/-- A number with what stands in front of its digits. Zeros, where they are asked for, go between
the two. -/
def writeNumber (field : Field) (front digits : List Char) : List Char :=
  if field.zeros && !field.leftAligned then
    front ++ Numeral.padLeft '0' (field.width - front.length) digits
  else field.align (front ++ digits)

/-- An integer in a base. The precision is the least number of digits. -/
def writeInteger (field : Field) (base : Nat) (mark : List Char) (n : Int) : List Char :=
  let digits := Numeral.padLeft '0' (field.precision.getD 0) (Nat.toDigits base n.natAbs)
  field.writeNumber (field.sign (n < 0) ++ if field.alternate then mark else []) digits

/-- The greatest precision that a number of digits may have. -/
def precisionLimit : Nat := 2147483644

/-- Writes an integer, if there is room for its digits. -/
def writeRoomyInteger (field : Field) (room base : Nat) (mark : List Char) (n : Int) :
    Except Error (List Char) :=
  let digits := field.precision.getD 0
  if precisionLimit < digits then .error .tooManyDigits
  else if room < digits then .error .outOfMemory
  else .ok (field.writeInteger base mark n)

/-- The number of places or digits where none is given. -/
def standardPrecision : Nat := 6

/-- A number with a fraction, in a layout for a precision. A layout that is `full` writes as many
digits as the precision says. -/
def writeFraction (field : Field) (room : Nat) (layout : Bool → Nat → Nat → Int → List Char)
    (full : Bool) (x : Binary64) : Except Error (List Char) :=
  let places := field.precision.getD standardPrecision
  match x with
  | .finite negative m e =>
    if full && room < places then .error .outOfMemory
    else .ok (field.writeNumber (field.sign negative) (layout field.alternate places m e))
  | .infinite negative => .ok (field.writeNumber (field.sign negative) "inf".toList)
  | .notANumber => .ok (field.writeNumber (field.sign false) "nan".toList)

/-- The integer for a letter of a decimal number. A number with a fraction is cut. -/
def decimalOf (letter : Char) (a : Argument) : Except Error Int :=
  match a, a.integer? with
  | .float x, _ => x.truncate.mapError .noInteger
  | _, some n => .ok n
  | _, none => .error (.needsNumber letter a.typeName)

/-- The number for a letter of a number with a fraction. -/
def fractionOf (a : Argument) : Except Error Binary64 :=
  match a, a.integer? with
  | .float x, _ => .ok x
  | _, some n =>
    match Binary64.ofInt n with
    | .infinite _ => .error .integerTooLarge
    | x => .ok x
  | _, none => .error (.needsFraction a.typeName)

/-- The integer for a letter of a number in another base. -/
def integerOf (letter : Char) (a : Argument) : Except Error Int :=
  match a.integer? with
  | some n => .ok n
  | none => .error (.needsInteger letter a.typeName)

/-- The character that an argument is. -/
def characterOf (a : Argument) : Except Error Char :=
  match a with
  | .text s =>
    match s.toList with
    | [c] => .ok c
    | _ => .error .needsCharacter
  | _ =>
    match a.integer? with
    | some n =>
      if 0 ≤ n ∧ n < 0x110000 then .ok (Char.ofNat n.toNat) else .error .noSuchCharacter
    | none => .error .needsCharacter

/-- A text in upper case. -/
def upper (text : List Char) : List Char := text.map Char.toUpper

/-- Writes an argument as a letter says. The index is the place of the letter in the template. -/
def writeLetter (field : Field) (room : Nat) (letter : Char) (index : Nat) (a : Argument) :
    Except Error (List Char) :=
  match letter with
  | 's' => .ok (field.writeText a.plain)
  | 'r' => .ok (field.writeText a.quoted)
  | 'a' => .ok (field.writeText (a.quoted.flatMap Argument.asciiForm))
  | 'd' | 'i' | 'u' => (decimalOf letter a).bind (field.writeRoomyInteger room 10 [])
  | 'x' => (integerOf letter a).bind (field.writeRoomyInteger room 16 ['0', 'x'])
  | 'X' => ((integerOf letter a).bind (field.writeRoomyInteger room 16 ['0', 'x'])).map upper
  | 'o' => (integerOf letter a).bind (field.writeRoomyInteger room 8 ['0', 'o'])
  | 'e' => (fractionOf a).bind (field.writeFraction room Decimal.scientific true)
  | 'E' => ((fractionOf a).bind (field.writeFraction room Decimal.scientific true)).map upper
  | 'f' => (fractionOf a).bind (field.writeFraction room Decimal.fixed true)
  | 'F' => ((fractionOf a).bind (field.writeFraction room Decimal.fixed true)).map upper
  | 'g' => (fractionOf a).bind (field.writeFraction room Decimal.general field.alternate)
  | 'G' =>
    ((fractionOf a).bind (field.writeFraction room Decimal.general field.alternate)).map upper
  | 'c' => (characterOf a).map fun c => field.align [c]
  | _ => .error (.unknownLetter letter index)

/-- Writes an argument, if there is room for the width. Other errors come first. -/
def write (field : Field) (room : Nat) (letter : Char) (index : Nat) (a : Argument) :
    Except Error (List Char) :=
  if field.width ≤ room then field.writeLetter room letter index a
  else
    ({ field with width := 0 }.writeLetter room letter index a).bind fun _ => .error .outOfMemory

end Field

end SerialTerminal.Template
