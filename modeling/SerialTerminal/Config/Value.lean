import SerialTerminal.Config.Basic
import SerialTerminal.Text.IntegerNumeral

/-!
# Values of a configuration

A configuration is put together from values of no fixed type. Each field reads its value leniently:
a number may come as text, a boolean as a word. `Config.Fault` lists what a value can be refused
for. Lists and tables are accepted by no field, so nothing is kept of them.

These are the rules of pydantic in its lax mode, on which `SPEC_FULL.md` §10 builds. The line speed
and the delay have conditions of the program's own. The proofs about layers need one property of
the rules, which `Config.Validation` states.
-/

namespace SerialTerminal.Config

/-- A value that some source gives for a field. -/
inductive Value where
  | null
  | bool (b : Bool)
  | int (n : Int)
  | float (x : Binary64)
  | text (s : String)
  | composite
deriving DecidableEq, Repr

/-- Why a value is refused. -/
inductive Fault where
  | notText
  | notInteger
  | notFinite
  | fractional
  | unreadableInteger
  | integerTooLong
  | notBoolean
  | unreadableBoolean
  | unknownMode
  | negative
  | unsupportedBaudrate (n : Int)
deriving DecidableEq, Repr

/-- Names in quotation marks, with a word before the last one. -/
def alternatives : List String → String
  | [] => ""
  | [last] => s!"'{last}'"
  | [first, last] => s!"'{first}' or '{last}'"
  | first :: rest => s!"'{first}', {alternatives rest}"

/-- The wording of a fault. -/
def Fault.message : Fault → String
  | .notText => "Input should be a valid string"
  | .notInteger => "Input should be a valid integer"
  | .notFinite => "Input should be a finite number"
  | .fractional => "Input should be a valid integer, got a number with a fractional part"
  | .unreadableInteger =>
    "Input should be a valid integer, unable to parse string as an integer"
  | .integerTooLong => "Unable to parse input string as an integer, exceeded maximum size"
  | .notBoolean => "Input should be a valid boolean"
  | .unreadableBoolean => "Input should be a valid boolean, unable to interpret input"
  | .unknownMode => s!"Input should be {alternatives (DisplayMode.all.map DisplayMode.name)}"
  | .negative => "Input should be greater than or equal to 0"
  | .unsupportedBaudrate n => s!"Value error, unknown baudrate {n}"

namespace Value

/-- The integer of a number without a fraction that fits 64 bits. -/
def integerOfFloat (x : Binary64) : Except Fault Int :=
  match x.truncate with
  | .error _ => .error .notFinite
  | .ok n =>
    if !x.isIntegral then .error .fractional
    else if -bound64 < n ∧ n < bound64 then .ok n
    else .error .integerTooLong

/-- Reads text. -/
def readText : Value → Except Fault String
  | .text s => .ok s
  | _ => .error .notText

/-- Reads an integer. -/
def readInt : Value → Except Fault Int
  | .bool b => .ok (if b then 1 else 0)
  | .int n => .ok n
  | .float x => integerOfFloat x
  | .text s =>
    match Text.readLenientInteger s.toList with
    | .ok n => .ok n
    | .error .malformed => .error .unreadableInteger
    | .error .tooLong => .error .integerTooLong
  | _ => .error .notInteger

/-- The words for true. -/
def trueWords : List String := ["1", "on", "t", "true", "y", "yes"]

/-- The words for false. -/
def falseWords : List String := ["0", "off", "f", "false", "n", "no"]

/-- The boolean that a text is a word for, in any case. -/
def boolOfWord? (s : String) : Option Bool :=
  let word := String.ofList (Text.lower s.toList)
  if word ∈ trueWords then some true else if word ∈ falseWords then some false else none

/-- The boolean of the numbers zero and one. -/
def boolOfInt (n : Int) : Except Fault Bool :=
  if n = 0 then .ok false else if n = 1 then .ok true else .error .unreadableBoolean

/-- Reads a boolean. Numbers beyond 64 bits and numbers with a fraction are of the wrong type; other
numbers but zero and one are of the right type without a meaning. -/
def readBool : Value → Except Fault Bool
  | .bool b => .ok b
  | .int n => if -bound64 ≤ n ∧ n < bound64 then boolOfInt n else .error .notBoolean
  | .float x =>
    match integerOfFloat x with
    | .ok n => boolOfInt n
    | .error _ => .error .notBoolean
  | .text s => ((boolOfWord? s).map Except.ok).getD (.error .unreadableBoolean)
  | _ => .error .notBoolean

/-- Reads a display mode by its name. -/
def readMode : Value → Except Fault DisplayMode
  | .text s => ((DisplayMode.ofName? s).map Except.ok).getD (.error .unknownMode)
  | _ => .error .unknownMode

/-- Reads a line speed. -/
def readBaudrate (v : Value) : Except Fault Int := do
  let n ← v.readInt
  if n ∈ supportedBaudrates then .ok n else .error (.unsupportedBaudrate n)

/-- Reads a number that is not negative. -/
def readDelay (v : Value) : Except Fault Int := do
  let n ← v.readInt
  if 0 ≤ n then .ok n else .error .negative

/-- Reads text that may be left out. -/
def readOptionalText : Value → Except Fault (Option String)
  | .null => .ok none
  | v => v.readText.map some

end Value

end SerialTerminal.Config
