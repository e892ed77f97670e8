import SerialTerminal.Calendar.Civil
import SerialTerminal.Numeral
import SerialTerminal.Text.UpperCase

/-!
# Time formats

A time format is text with directives. A directive is a per cent sign, flags, a field width, a
modifier and a letter that says what is written. Names of days and months are English.

A format is split into tokens first; each token is then written on its own. What is no directive
stands for itself, also a per cent sign that starts none.

Directives have the meaning that the C library gives them. Stamps in a format (`SPEC_FULL.md` §4.3)
are written so.
-/

namespace SerialTerminal.Calendar

/-- How a field is filled up. -/
inductive Padding where
  | standard
  | spaces
  | zeros
  | off
deriving DecidableEq, Repr

/-- A directive. Its letter is missing where the format ends early, and `source` is the text that
it was read from. -/
structure Directive where
  padding : Padding
  upper : Bool
  swapCase : Bool
  width : Option Nat
  modifier : Option Char
  letter : Option Char
  source : List Char
deriving DecidableEq, Repr

/-- A piece of a format. -/
inductive FormatToken where
  | literal (c : Char)
  | directive (d : Directive)
deriving DecidableEq, Repr

namespace TimeFormat

/-- The flags in front of a directive's width: the last padding, upper case, swapped case. -/
def flags : Padding → Bool → Bool → List Char → Padding × Bool × Bool × List Char
  | _, upper, swap, '_' :: rest => flags .spaces upper swap rest
  | _, upper, swap, '-' :: rest => flags .off upper swap rest
  | _, upper, swap, '0' :: rest => flags .zeros upper swap rest
  | padding, _, swap, '^' :: rest => flags padding true swap rest
  | padding, upper, _, '#' :: rest => flags padding upper true rest
  | padding, upper, swap, rest => (padding, upper, swap, rest)

/-- The value of a row of decimal digits. -/
def decimalValue (ds : List Char) : Nat :=
  ds.foldl (fun n c => 10 * n + (c.toNat - 48)) 0

/-- The directive after a per cent sign and the text that follows it. -/
def readDirective (text : List Char) : Directive × List Char :=
  let (padding, upper, swap, afterFlags) := flags .standard false false text
  let ds := afterFlags.takeWhile Char.isDigit
  let afterWidth := afterFlags.drop ds.length
  let modifier := match afterWidth with
    | 'E' :: _ => some 'E'
    | 'O' :: _ => some 'O'
    | _ => none
  let afterModifier := if modifier.isSome then afterWidth.drop 1 else afterWidth
  let rest := afterModifier.drop 1
  ({ padding := padding
     upper := upper
     swapCase := swap
     width := if ds.isEmpty then none else some (decimalValue ds)
     modifier := modifier
     letter := afterModifier.head?
     source := '%' :: text.take (text.length - rest.length) }, rest)

theorem length_flags_le (padding : Padding) (upper swap : Bool) (text : List Char) :
    (flags padding upper swap text).2.2.2.length ≤ text.length := by
  fun_induction flags padding upper swap text <;> grind

/-- A directive leaves no more text than there was. -/
theorem length_readDirective_le (text : List Char) :
    (readDirective text).2.length ≤ text.length := by
  have h := length_flags_le .standard false false text
  grind [readDirective]

/-- The tokens of a format. -/
def tokens (format : List Char) : List FormatToken :=
  match format with
  | [] => []
  | c :: rest =>
    if c = '%' then
      .directive (readDirective rest).1 :: tokens (readDirective rest).2
    else .literal c :: tokens rest
termination_by format.length
decreasing_by
  · have := length_readDirective_le rest
    simp only [List.length_cons]
    omega
  · simp

/-- A text in a field: filled up on the left to the directive's width. -/
def field (d : Directive) (text : List Char) : List Char :=
  Numeral.padLeft (if d.padding = .zeros then '0' else ' ') (d.width.getD 0) text

/-- A word in a field, in the case that the flags ask for. -/
def word (d : Directive) (lower upper : Bool) (text : List Char) : List Char :=
  field d
    (if lower then text.map Char.toLower else if upper then text.map Text.upperCase else text)

/-- A number in a field of at least `least` digits. Zeros go between the sign and the digits. -/
def number (d : Directive) (padding : Padding) (least : Nat) (value : Int) : List Char :=
  let wanted := max least (d.width.getD 0)
  match padding with
  | .off => field d (Numeral.ofInt value)
  | .spaces => Numeral.spacePadded wanted value
  | _ => Numeral.zeroPadded wanted value

/-- A number filled up with zeros unless a flag asks otherwise. -/
def zeroNumber (d : Directive) (least : Nat) (value : Int) : List Char :=
  number d d.padding least value

/-- A number filled up with spaces unless a flag asks otherwise. -/
def spaceNumber (d : Directive) (least : Nat) (value : Int) : List Char :=
  number d (if d.padding = .standard then .spaces else d.padding) least value

/-- The names of the days of the week. -/
def dayNames : List String :=
  ["Sunday", "Monday", "Tuesday", "Wednesday", "Thursday", "Friday", "Saturday"]

/-- The names of the months. -/
def monthNames : List String :=
  ["January", "February", "March", "April", "May", "June", "July", "August", "September",
    "October", "November", "December"]

/-- The name of a day of the week. -/
def dayName (t : Civil) : List Char := (dayNames.getD t.weekday "?").toList

/-- The name of a month. -/
def monthName (t : Civil) : List Char := (monthNames.getD (t.month - 1) "?").toList

/-- The hour on a dial of twelve hours. -/
def dialHour (t : Civil) : Nat := if t.hour % 12 = 0 then 12 else t.hour % 12

/-- The year and the number of the week that a day belongs to, where weeks start on Monday and
belong to the year that holds most of their days. -/
def weekDate (t : Civil) : Int × Nat :=
  let sinceMonday := (t.weekday + 6) % 7
  let thursday := (t.yearDay : Int) - sinceMonday + 3
  if thursday < 0 then (t.year - 1, ((thursday + daysInYear (t.year - 1)) / 7).toNat + 1)
  else if daysInYear t.year ≤ thursday then
    (t.year + 1, ((thursday - daysInYear t.year) / 7).toNat + 1)
  else (t.year, (thursday / 7).toNat + 1)

/-- Letters that stand for a whole format. -/
def composite? : Char → Option String
  | 'c' => some "%a %b %e %H:%M:%S %Y"
  | 'D' => some "%m/%d/%y"
  | 'F' => some "%Y-%m-%d"
  | 'R' => some "%H:%M"
  | 'r' => some "%I:%M:%S %p"
  | 'T' => some "%H:%M:%S"
  | 'X' => some "%H:%M:%S"
  | 'x' => some "%m/%d/%y"
  | _ => none

/-- The modifiers that a letter does not go with. -/
def refuses (letter modifier : Char) : Bool :=
  if modifier = 'E' then
    letter ∈ "%aABbDdeFGgHhIjklMmSUVWw".toList
  else
    letter ∈ "%aAcDFxXY".toList

/-- Holds of the directives for a short month whose modifier is refused. They still heed the flag
for swapped case. -/
def isRefusedShortMonth (d : Directive) : Bool :=
  (d.letter = some 'b' || d.letter = some 'h') && d.modifier = some 'E'

/-- A directive without a meaning, copied. -/
def copied (d : Directive) : List Char :=
  word d false (d.upper || (d.swapCase && isRefusedShortMonth d))
    (if d.letter = some '%' then ['%'] else d.source)

/-- The sign of an offset in a field. -/
def offsetSign (d : Directive) (offset : Offset) : List Char :=
  field d (if offset.seconds < 0 then ['-'] else ['+'])

/-- Hours and minutes of an offset, read as one number. -/
def offsetDigits (offset : Offset) : Int :=
  let minutes := offset.seconds.natAbs / 60
  minutes / 60 * 100 + minutes % 60

/-- What a letter stands for by itself, if it stands for anything. -/
def simple? (t : Civil) (d : Directive) (letter : Char) : Option (List Char) :=
  match letter with
  | '%' => some (field d ['%'])
  | 'n' => some (field d ['\n'])
  | 't' => some (field d ['\t'])
  | 'a' => some (word d false (d.upper || d.swapCase) ((dayName t).take 3))
  | 'A' => some (word d false (d.upper || d.swapCase) (dayName t))
  | 'b' => some (word d false (d.upper || d.swapCase) ((monthName t).take 3))
  | 'h' => some (word d false (d.upper || d.swapCase) ((monthName t).take 3))
  | 'B' => some (word d false (d.upper || d.swapCase) (monthName t))
  | 'C' => some (zeroNumber d 1 (t.year / 100))
  | 'd' => some (zeroNumber d 2 t.day)
  | 'e' => some (spaceNumber d 2 t.day)
  | 'G' => some (zeroNumber d 1 (weekDate t).1)
  | 'g' => some (zeroNumber d 2 ((weekDate t).1 % 100))
  | 'H' => some (zeroNumber d 2 t.hour)
  | 'I' => some (zeroNumber d 2 (dialHour t))
  | 'j' => some (zeroNumber d 3 (t.yearDay + 1))
  | 'k' => some (spaceNumber d 2 t.hour)
  | 'l' => some (spaceNumber d 2 (dialHour t))
  | 'M' => some (zeroNumber d 2 t.minute)
  | 'm' => some (zeroNumber d 2 t.month)
  | 'P' => some (word d true false (if t.hour < 12 then ['A', 'M'] else ['P', 'M']))
  | 'p' =>
    some (word d d.swapCase d.upper (if t.hour < 12 then ['A', 'M'] else ['P', 'M']))
  | 'S' => some (zeroNumber d 2 t.second)
  | 's' => some (field d (Numeral.ofInt t.epochSeconds))
  | 'u' => some (zeroNumber d 1 ((t.weekday + 6) % 7 + 1))
  | 'U' => some (zeroNumber d 2 ((t.yearDay + 7 - t.weekday) / 7))
  | 'V' => some (zeroNumber d 2 (weekDate t).2)
  | 'W' => some (zeroNumber d 2 ((t.yearDay + 7 - (t.weekday + 6) % 7) / 7))
  | 'w' => some (zeroNumber d 1 t.weekday)
  | 'Y' => some (zeroNumber d 1 t.year)
  | 'y' => some (zeroNumber d 2 (t.year % 100))
  | 'Z' => some (word d d.swapCase d.upper t.offset.name)
  | 'z' => some (offsetSign d t.offset ++ zeroNumber d 4 (offsetDigits t.offset))
  | _ => none

/-- Writes one token of a format that holds no composite directive. -/
def writeSimple (t : Civil) : FormatToken → List Char
  | .literal c => [c]
  | .directive d =>
    match d.letter with
    | none => copied d
    | some letter => (simple? t d letter).getD (copied d)

/-- Writes one token. -/
def write (t : Civil) : FormatToken → List Char
  | .literal c => [c]
  | .directive d =>
    match d.letter with
    | none => copied d
    | some letter =>
      if (d.modifier.map (refuses letter)).getD false then copied d
      else
        match composite? letter with
        | some inner =>
          word d false d.upper ((tokens inner.toList).flatMap (writeSimple t))
        | none => writeSimple t (.directive d)

/-- A token with a bound on its field width. -/
def boundWidth (bound : Nat) : FormatToken → FormatToken
  | .literal c => .literal c
  | .directive d => .directive { d with width := d.width.map (min bound) }

/-- The length that no expansion of a format reaches: the first doubling of 1024 that allows 256
characters for each character of the format. -/
def lengthLimit (formatLength : Nat) : Nat :=
  let quarters := (formatLength + 3) / 4
  if quarters ≤ 1 then 1024 else 1024 * twoPow ((quarters - 1).log2 + 1)

/-- The text of a format at a time. An expansion that is too long is given up, and nothing is
written. -/
def expand (format : List Char) (t : Civil) : List Char :=
  let limit := lengthLimit format.length
  let text := (tokens format).flatMap fun token => write t (boundWidth limit token)
  if text.length < limit then text else []

end TimeFormat

end SerialTerminal.Calendar
