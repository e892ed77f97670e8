import SerialTerminal.CommandLine.Switch

/-!
# Tokens of the command line

Every argument is classified before any is used. An argument is an operand, a switch with or without
an attached value, or a switch that nobody knows. Behind the end mark `--` there are operands only.

An argument that starts with a dash is a switch if it is spelled like one. Otherwise the text before
its first equals sign may be spelled like one, the rest is then attached. Otherwise a long switch
may be cut short if no other starts alike, and a short one may have its value attached without a
sign. What remains is an operand if it is a negative number or holds a space.

The rules are those of the option parser that the command line of `SPEC_FULL.md` §12 is built on.
-/

namespace SerialTerminal.CommandLine

/-- A classified argument. -/
inductive Token where
  | operand (text : List Char)
  | endMark
  | option (switch : Switch) (name : List Char) (attached : Option (List Char))
  | unknown (text : List Char)
deriving DecidableEq, Repr

namespace Token

/-- The text before the first equals sign and the text behind it. -/
def splitEquals? (text : List Char) : Option (List Char × List Char) :=
  let before := text.takeWhile (· ≠ '=')
  match text.drop before.length with
  | _ :: behind => some (before, behind)
  | [] => none

/-- The spellings that start with a text, with what is attached to them. -/
def completions (start : List Char) (attached : Option (List Char)) : List Token :=
  (Switch.spellings.filter fun entry => start.isPrefixOf entry.1).map fun entry =>
    .option entry.2 entry.1 attached

/-- The readings of a long switch that was cut short. -/
def longReadings (text : List Char) : List Token :=
  match splitEquals? text with
  | some (before, behind) => completions before (some behind)
  | none => completions text none

/-- The readings of a short switch with its value attached, and of a spelling that was cut short. -/
def shortReadings (text : List Char) : List Token :=
  Switch.spellings.filterMap fun entry =>
    if entry.1 = text.take 2 then some (.option entry.2 entry.1 (some (text.drop 2)))
    else if text.isPrefixOf entry.1 then some (.option entry.2 entry.1 none)
    else none

/-- The readings of an argument that is not spelled like a switch. -/
def readings (text : List Char) : List Token :=
  if ['-', '-'].isPrefixOf text then longReadings text else shortReadings text

/-- Holds of a digit of any script. -/
def isDigit (c : Char) : Bool := (Text.digitValue? c).isSome

/-- Holds of a negative number: a dash and digits, with at most one point in front of a digit. A
line feed may follow. -/
def isNegativeNumber (text : List Char) : Bool :=
  match text with
  | '-' :: rest =>
    let number := if rest.getLast? = some '\n' then rest.dropLast else rest
    let behindWhole := number.drop (number.takeWhile isDigit).length
    match behindWhole with
    | [] => !number.isEmpty
    | '.' :: fraction => !fraction.isEmpty && fraction.all isDigit
    | _ => false
  | _ => false

/-- The spelling that a token was read as. -/
def spelling : Token → List Char
  | .option _ name _ => name
  | _ => []

/-- Classifies an argument that starts with a dash and is not spelled like a switch. -/
def classifyOther (text : List Char) : Except UsageError Token :=
  match readings text with
  | [token] => .ok token
  | [] =>
    if isNegativeNumber text || text.contains ' ' then .ok (.operand text)
    else .ok (.unknown text)
  | several => .error (.ambiguous text (several.map spelling))

/-- The switch before the first equals sign, with what is behind the sign. -/
def withEquals? (text : List Char) : Option Token :=
  (splitEquals? text).bind fun (before, behind) =>
    (Switch.ofSpelling? before).map fun switch => .option switch before (some behind)

/-- Classifies an argument. -/
def classify (text : List Char) : Except UsageError Token :=
  if text.head? ≠ some '-' then .ok (.operand text)
  else
    match Switch.ofSpelling? text with
    | some switch => .ok (.option switch text none)
    | none =>
      if text.length = 1 then .ok (.operand text)
      else
        match withEquals? text with
        | some token => .ok token
        | none => classifyOther text

/-- Classifies all arguments. -/
def classifyAll : List (List Char) → Except UsageError (List Token)
  | [] => .ok []
  | text :: rest =>
    if text = ['-', '-'] then .ok (.endMark :: rest.map .operand)
    else do
      let token ← classify text
      let tokens ← classifyAll rest
      return token :: tokens

end Token

end SerialTerminal.CommandLine
