import SerialTerminal.Text.Quoted

/-!
# Display modes

The ways in which received bytes are shown. Timestamped text has two modes, for the start of a line
and for the rest of it.

They are those of `SPEC_FULL.md` §3.
-/

namespace SerialTerminal

/-- How received bytes are shown. -/
inductive DisplayMode where
  | startText
  | text
  | startDate
  | date
  | int
  | hex
  | slipAuto
  | slip
  | slipHide
deriving DecidableEq, Repr

namespace DisplayMode

/-- All modes, in the order in which they are listed to the user. -/
def all : List DisplayMode :=
  [.startText, .text, .startDate, .date, .int, .hex, .slipAuto, .slip, .slipHide]

/-- The name of a mode in a configuration. -/
def name : DisplayMode → String
  | .startText => "start_text"
  | .text => "text"
  | .startDate => "start_date"
  | .date => "date"
  | .int => "int"
  | .hex => "hex"
  | .slipAuto => "slip_auto"
  | .slip => "slip"
  | .slipHide => "slip_hide"

/-- The mode of a name. -/
def ofName? (name : String) : Option DisplayMode := all.find? fun mode => mode.name = name

/-- Holds of the modes that look for SLIP frames. -/
def isSlip : DisplayMode → Bool
  | .slipAuto | .slip | .slipHide => true
  | _ => false

/-- A name that no mode has. -/
structure UnknownName where
  name : String
deriving DecidableEq, Repr

/-- The wording of an unknown name. -/
def UnknownName.message (e : UnknownName) : String :=
  s!"{Text.quoted e.name} is not a valid DisplayMode"

/-- The mode of a name, or an error. -/
def ofName (name : String) : Except UnknownName DisplayMode :=
  match ofName? name with
  | some mode => .ok mode
  | none => .error ⟨name⟩

/-- Every mode is found by its name. -/
@[simp] theorem ofName?_name (mode : DisplayMode) : ofName? mode.name = some mode := by
  cases mode <;> decide

end DisplayMode

end SerialTerminal
