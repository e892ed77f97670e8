import SerialTerminal.Template.Field
import SerialTerminal.Text.FloatNumeral

/-!
# Expansion of templates

A template is text with directives. A directive is a per cent sign, flags, a width, a precision
after a point, a size letter and the letter of a field. A width or a precision may be a star, which
takes an argument of its own. Two per cent signs stand for one.

A template is read one character at a time. `Phase` is the part of a directive that may come next.
Arguments are used in order and must all be used.

Records are written so (`SPEC_FULL.md` §13). How much room the machine has for a field is given.
-/

namespace SerialTerminal.Template

/-- The part of a directive that may come next. -/
inductive Phase where
  /-- Outside a directive. -/
  | literal
  | opening
  | flags
  | width
  | point
  | precision
  | precisionDigits
  | size
  | letter
deriving DecidableEq, Repr

/-- How far a template was written. -/
structure Progress where
  phase : Phase
  field : Field
  arguments : List Argument
  index : Nat
  written : List Char
  /-- The number of characters that there is room for in a field. -/
  room : Nat
deriving Repr

namespace Progress

/-- Takes the next argument. -/
def nextArgument (p : Progress) : Except Error (Argument × Progress) :=
  match p.arguments with
  | [] => .error .tooFewArguments
  | a :: rest => .ok (a, { p with arguments := rest })

/-- Takes an argument for a star. -/
def nextStar (p : Progress) : Except Error (Int × Progress) := do
  let (a, next) ← p.nextArgument
  match a.integer? with
  | some n => .ok (n, next)
  | none => .error .widthNotInteger

/-- Writes text and goes on outside a directive. -/
def finish (p : Progress) (text : List Char) : Progress :=
  { p with phase := .literal, written := p.written ++ text }

/-- The letter of a field. -/
def onLetter (p : Progress) (c : Char) : Except Error Progress := do
  let (a, next) ← p.nextArgument
  let text ← p.field.write p.room c p.index a
  return next.finish text

/-- A size letter, or what comes behind it. -/
def onSize (p : Progress) (c : Char) : Except Error Progress :=
  if c = 'h' ∨ c = 'l' ∨ c = 'L' then .ok { p with phase := .letter } else p.onLetter c

/-- A number with one more digit. -/
def withDigit (n : Nat) (c : Char) : Nat := 10 * n + (c.toNat - 48)

/-- A field whose precision has one more digit. A precision is less than the bound of 32 bits. -/
def precisionDigit (p : Progress) (c : Char) : Except Error Progress :=
  let precision := withDigit (p.field.precision.getD 0) c
  if bound32 ≤ precision then .error .precisionTooBig
  else
    .ok { p with phase := .precisionDigits, field := { p.field with precision := some precision } }

/-- A digit of a precision, or what comes behind it. -/
def onPrecisionDigits (p : Progress) (c : Char) : Except Error Progress :=
  if Text.isAsciiDigit c then p.precisionDigit c else p.onSize c

/-- What comes behind the point. A negative precision of a star counts as zero. -/
def onPrecision (p : Progress) (c : Char) : Except Error Progress :=
  if c = '*' then do
    let (n, next) ← p.nextStar
    if n < -bound32 ∨ bound32 ≤ n then .error .starPrecisionTooLarge
    else .ok { next with phase := .size, field := { p.field with precision := some n.toNat } }
  else p.onPrecisionDigits c

/-- The point in front of a precision, or what comes behind it. -/
def onPoint (p : Progress) (c : Char) : Except Error Progress :=
  if c = '.' then
    .ok { p with phase := .precision, field := { p.field with precision := some 0 } }
  else p.onSize c

/-- A digit of a width, or what comes behind it. A width is less than the bound of 64 bits. -/
def onWidth (p : Progress) (c : Char) : Except Error Progress :=
  if Text.isAsciiDigit c then
    let width := withDigit p.field.width c
    if bound64 ≤ width then .error .widthTooBig
    else .ok { p with phase := .width, field := { p.field with width := width } }
  else p.onPoint c

/-- The width of a star. A negative one aligns to the left. The least of 64 bits has no positive
counterpart and asks for no width. -/
def withStarWidth (field : Field) (n : Int) : Field :=
  { field with
    width := if n = -bound64 then 0 else n.natAbs
    leftAligned := field.leftAligned || n < 0 }

/-- A flag, or what comes behind it. A zero in front of a width is a flag. -/
def onFlag (p : Progress) (c : Char) : Except Error Progress :=
  let flagged field := Except.ok { p with phase := .flags, field := field }
  match c with
  | '-' => flagged { p.field with leftAligned := true }
  | '+' => flagged { p.field with plus := true }
  | ' ' => flagged { p.field with blank := true }
  | '#' => flagged { p.field with alternate := true }
  | '0' => flagged { p.field with zeros := true }
  | '*' => do
    let (n, next) ← p.nextStar
    if n < -bound64 ∨ bound64 ≤ n then .error .starWidthTooLarge
    else .ok { next with phase := .point, field := withStarWidth p.field n }
  | _ => p.onWidth c

/-- What comes behind the per cent sign of a directive. A second one stands for itself. -/
def onOpening (p : Progress) (c : Char) : Except Error Progress :=
  if c = '%' then .ok (p.finish ['%'])
  else if c = '(' then .error .needsNames
  else p.onFlag c

/-- Takes a character in a phase. -/
def onChar (p : Progress) (c : Char) : Except Error Progress :=
  match p.phase with
  | .literal =>
    if c = '%' then .ok { p with phase := .opening, field := {} } else .ok (p.finish [c])
  | .opening => p.onOpening c
  | .flags => p.onFlag c
  | .width => p.onWidth c
  | .point => p.onPoint c
  | .precision => p.onPrecision c
  | .precisionDigits => p.onPrecisionDigits c
  | .size => p.onSize c
  | .letter => p.onLetter c

/-- Takes a character and goes on to the next place. -/
def advance (p : Progress) (c : Char) : Except Error Progress :=
  (p.onChar c).map fun next => { next with index := p.index + 1 }

end Progress

/-- Writes arguments into a template. -/
def expand (template : List Char) (arguments : List Argument) (room : Nat) :
    Except Error (List Char) := do
  let last ← template.foldlM Progress.advance ⟨.literal, {}, arguments, 0, [], room⟩
  if last.phase ≠ .literal then .error .incomplete
  else if !last.arguments.isEmpty then .error .tooManyArguments
  else .ok last.written

/-- The room for a field on a machine of which nothing else is said. -/
def usualRoom : Nat := 1073741824

/-- A text for the journal. A template without arguments stands for itself. -/
def text (template : String) (arguments : List Argument) (room : Nat) : Except Error String :=
  if arguments.isEmpty then .ok template
  else (expand template.toList arguments room).map String.ofList

end SerialTerminal.Template
