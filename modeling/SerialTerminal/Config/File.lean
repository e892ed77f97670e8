import SerialTerminal.Config.Layer
import SerialTerminal.Text.Lines

/-!
# Configuration files

A configuration file has lines of the form `[key] = value`. Lines of another form, and keys that
mean nothing, are passed over. A later line for a field replaces an earlier one.

Behind a value there may be a comment after `//` or `#`. Only a time format is taken as it stands,
for it may hold either. Numbers are read as numbers with a fraction, of which the integer part
counts; what is no number stays text and is refused later. Words for booleans are read here too.

This is the file of `SPEC_FULL.md` §10, as `parse_config_lines` takes it apart.
-/

namespace SerialTerminal.Config.File

/-- The field that a key stands for. Keys are compared in lower case. -/
def fieldOfKey? (key : List Char) : Option Field :=
  match String.ofList (Text.lower (Text.strip key)) with
  | "device" => some .device
  | "serialport" => some .device
  | "baudrate" => some .baudrate
  | "mode" => some .mode
  | "delay" => some .delayUs
  | "timeformat" => some .timeFormat
  | "starttime" => some .startTime
  | "logpath" => some .logDir
  | "debug" => some .debug
  | _ => none

/-- The key and the value of a line that has both. The value must not contain a line feed. -/
def splitLine? (line : List Char) : Option (List Char × List Char) :=
  match Text.strip line with
  | '[' :: rest =>
    let key := rest.takeWhile (· ≠ ']')
    if key.isEmpty then none
    else
      match (rest.drop (key.length + 1)).dropWhile Text.isBlank with
      | '=' :: behind =>
        let value := behind.dropWhile Text.isBlank
        if '\n' ∈ value then none else some (key, value)
      | _ => none
  | _ => none

/-- A value without the comment behind it (`_strip_inline_comment`). -/
def withoutComment (value : List Char) : List Char :=
  Text.strip (Text.before ['#'] (Text.before ['/', '/'] value))

/-- The boolean of a text. Only a few words are known; otherwise a text that is not empty means
true. -/
def boolOfText (text : List Char) : Bool :=
  let word := String.ofList (Text.lower text)
  if word ∈ ["1", "true", "yes", "on"] then true
  else if word ∈ ["0", "false", "no", "off"] then false
  else !text.isEmpty

/-- The integer part of a number, or the text of what is none. An infinite number has no integer
part. -/
def numberOfText (text : List Char) : Except Binary64.IntegerError Value :=
  match Text.readFloat? text with
  | none => .ok (.text (String.ofList text))
  | some x =>
    match x.truncate with
    | .ok n => .ok (.int n)
    | .error .notANumber => .ok (.text (String.ofList text))
    | .error .infinite => .error .infinite

/-- The value of a field as its text is meant (`_coerce_value`). -/
def valueOfText (field : Field) (text : List Char) : Except Binary64.IntegerError Value :=
  match field with
  | .startTime | .debug => .ok (.bool (boolOfText text))
  | .baudrate | .delayUs => numberOfText text
  | .timeFormat => .ok (if text.isEmpty then .null else .text (String.ofList text))
  | .device | .mode | .logDir => .ok (.text (String.ofList text))

/-- The text of a value as it is read for a field. -/
def textFor (field : Field) (value : List Char) : List Char :=
  if field = .timeFormat then Text.strip value else withoutComment value

/-- The field and the value of a line, if it supplies one. -/
def readLine (line : List Char) : Except Binary64.IntegerError (Option (Field × Value)) :=
  match splitLine? line with
  | none => .ok none
  | some (key, value) =>
    match fieldOfKey? key with
    | none => .ok none
    | some field => (valueOfText field (textFor field value)).map fun v => some (field, v)

/-- The layer that lines supply on top of another. -/
def readLinesOnto (layer : Layer) : List (List Char) → Except Binary64.IntegerError Layer
  | [] => .ok layer
  | line :: rest => do
    match ← readLine line with
    | none => readLinesOnto layer rest
    | some (field, value) => readLinesOnto (layer.set field value) rest

/-- The layer that lines supply (`parse_config_lines`). -/
def readLines (lines : List (List Char)) : Except Binary64.IntegerError Layer :=
  readLinesOnto .empty lines

end SerialTerminal.Config.File
