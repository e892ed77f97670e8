import SerialTerminal.CommandLine.Token

/-!
# Options of the command line

Tokens are used from left to right. Switches that take no value may follow each other behind one
dash. A switch that takes a value takes the text attached to it or the operand behind it; an end
mark that is attached leaves it without a value.

Operands name devices. Only the first row of operands counts, the end mark in it is dropped. Later
operands, and switches that nobody knows, are left over, which is an error once all tokens are used.

This is the command line of `SPEC_FULL.md` §12.
-/

namespace SerialTerminal.CommandLine

/-- What a command line asks for. The value `.composite` stands for one that was dropped. -/
structure Options where
  devices : List String := []
  baudrate : Option Config.Value := none
  delay : Option Config.Value := none
  configPath : Config.Value := .text "serialdump.cfg"
  logDir : Option Config.Value := none
  debug : Bool := false
  /-- What the switches for display modes set, each on top of those before it. -/
  display : Config.Layer := .empty
deriving DecidableEq, Repr

/-- Why a command line leads to no options. -/
inductive Stop where
  /-- Help is asked for. -/
  | help
  | misuse (error : UsageError)
deriving DecidableEq, Repr

/-- Where the row of operands stands. -/
inductive OperandRow where
  | awaited
  | open
  | closed
deriving DecidableEq, Repr

/-- What was used of a command line so far. -/
structure Draft where
  options : Options
  row : OperandRow
  left : List (List Char)
deriving DecidableEq, Repr

/-- The format of a stamp for which no format is given. -/
def defaultTimeFormat : String := "%Y-%m-%d %H:%M:%S"

namespace Options

/-- Options with the layer of a switch for a display mode on top. -/
def withDisplay (options : Options) (layer : Config.Layer) : Options :=
  { options with display := options.display.update layer }

/-- Uses a switch that takes no value. -/
def flag (options : Options) : Switch → Except Stop Options
  | .help => .error .help
  | .mode choice => .ok (options.withDisplay choice.layer)
  | .debug => .ok { options with debug := true }
  | _ => .ok options

/-- The integer that is attached to a switch. -/
def integerValue (switch : Switch) (text : List Char) : Except Stop Config.Value :=
  if text = ['-', '-'] then .ok .composite
  else
    match Text.readInteger? text with
    | some n => .ok (.int n)
    | none => .error (.misuse (.notAnInteger switch text))

/-- The text that is attached to a switch. -/
def textValue (text : List Char) : Config.Value :=
  if text = ['-', '-'] then .composite else .text (String.ofList text)

/-- The layer of lines with a formatted stamp. A format that was dropped leaves the format as it
is. -/
def formattedLayer (text : List Char) : Config.Layer :=
  if text = ['-', '-'] then modeLayer .startDate
  else (modeLayer .startDate).set .timeFormat (.text (String.ofList text))

/-- Uses a switch that takes a value. -/
def assign (options : Options) (switch : Switch) (text : List Char) : Except Stop Options :=
  match switch with
  | .baudrate => (integerValue switch text).map fun v => { options with baudrate := some v }
  | .delay => (integerValue switch text).map fun v => { options with delay := some v }
  | .stampFormat => .ok (options.withDisplay (formattedLayer text))
  | .config => .ok { options with configPath := textValue text }
  | .logDir => .ok { options with logDir := some (textValue text) }
  | _ => .ok options

end Options

/-- Switches behind one dash: those that take no value, the last one and the text attached to it. -/
structure Cluster where
  flags : List Switch
  last : Switch
  attached : Option (List Char)
deriving DecidableEq, Repr

namespace Cluster

/-- A switch in front of others. -/
def push (switch : Switch) (c : Cluster) : Cluster := { c with flags := switch :: c.flags }

/-- The switches that the text attached to a short switch holds. -/
def ofAttached (switch : Switch) (attached : List Char) : Except UsageError Cluster :=
  if switch.takesValue then .ok ⟨[], switch, some attached⟩
  else
    match attached with
    | [] => .error (.valueUnused switch attached)
    | c :: rest =>
      match Switch.ofSpelling? ['-', c] with
      | none => .error (.valueUnused switch attached)
      | some next =>
        if rest.isEmpty then .ok ⟨[switch], next, none⟩
        else (ofAttached next rest).map (push switch)

/-- The switches that a token holds. Behind a long one there are no others. -/
def ofToken (switch : Switch) (name : List Char) : Option (List Char) → Except UsageError Cluster
  | none => .ok ⟨[], switch, none⟩
  | some attached =>
    if ['-', '-'].isPrefixOf name && !switch.takesValue then .error (.valueUnused switch attached)
    else ofAttached switch attached

/-- Uses the switches, the last one with a value if it takes one. -/
def apply (c : Cluster) (value : Option (List Char)) (options : Options) :
    Except Stop Options := do
  let flagged ← c.flags.foldlM Options.flag options
  match value with
  | some text => flagged.assign c.last text
  | none => flagged.flag c.last

end Cluster

namespace Draft

/-- Closes the row of operands if it was open. -/
def closeRow (d : Draft) : Draft :=
  { d with row := match d.row with
      | .open => .closed
      | other => other }

/-- Takes an operand. -/
def operand (d : Draft) (text : List Char) : Draft :=
  match d.row with
  | .closed => { d with left := d.left ++ [text] }
  | _ =>
    { d with
      row := .open
      options := { d.options with devices := d.options.devices ++ [String.ofList text] } }

/-- Takes the end mark. -/
def endMark (d : Draft) : Draft :=
  match d.row with
  | .closed => { d with left := d.left ++ [['-', '-']] }
  | _ => { d with row := .open }

/-- Takes a switch that nobody knows. -/
def unknown (d : Draft) (text : List Char) : Draft :=
  { d.closeRow with left := d.left ++ [text] }

/-- Takes switches behind one dash. -/
def cluster (d : Draft) (c : Cluster) (value : Option (List Char)) : Except Stop Draft :=
  (c.apply value d.options).map fun options => { d.closeRow with options := options }

/-- Uses tokens. -/
def consume (d : Draft) : List Token → Except Stop Draft
  | [] => .ok d
  | .operand text :: rest => (d.operand text).consume rest
  | .endMark :: rest => d.endMark.consume rest
  | .unknown text :: rest => (d.unknown text).consume rest
  | .option switch name attached :: rest =>
    match Cluster.ofToken switch name attached with
    | .error e => .error (.misuse e)
    | .ok c =>
      if c.last.takesValue && c.attached.isNone then
        match rest with
        | .operand value :: behind => do
          let next ← d.cluster c (some value)
          next.consume behind
        | _ => .error (.misuse (.valueMissing c.last))
      else do
        let next ← d.cluster c c.attached
        next.consume rest

end Draft

/-- An argument with the default format attached to a bare switch for stamps
(`_expand_time_format`). -/
def withDefaultFormat (text : List Char) : List Char :=
  if text = ['-', 'T'] then text ++ defaultTimeFormat.toList else text

/-- The options of a command line. -/
def parse (arguments : List String) : Except Stop Options := do
  let texts := arguments.map fun text => withDefaultFormat text.toList
  let tokens ← (Token.classifyAll texts).mapError .misuse
  let draft ← Draft.consume ⟨{}, .awaited, []⟩ tokens
  if draft.left.isEmpty then return draft.options
  else throw (.misuse (.unrecognized draft.left))

end SerialTerminal.CommandLine
