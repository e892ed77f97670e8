import SerialTerminal.DisplayMode

/-!
# Configuration of a terminal

The settings of one session. `Config.Valid` says which settings a session may run with.

This is the `TerminalConfig` of `SPEC_FULL.md` §10. The line speeds are those of §6.
-/

namespace SerialTerminal

/-- The settings of a session. -/
structure Config where
  /-- Path of the serial device. -/
  device : String := "/dev/ttyS0"
  /-- Line speed in bits per second. -/
  baudrate : Int := 57600
  /-- How received bytes are shown at first. -/
  mode : DisplayMode := .startText
  /-- Least time between two bytes sent, in microseconds. -/
  delayUs : Int := 6000
  /-- Format of the stamp in front of a line, if it is written in a format. -/
  timeFormat : Option String := none
  /-- Whether a stamp without a format shows the time since the start. -/
  startTime : Bool := false
  /-- Directory of the journal file, or nothing. -/
  logDir : String := ""
  /-- Whether debug records are kept. -/
  debug : Bool := false
deriving DecidableEq, Repr

namespace Config

/-- The line speeds that a terminal supports. -/
def supportedBaudrates : List Int :=
  [9600, 19200, 38400, 57600, 115200, 230400, 460800, 921600]

/-- Holds of the settings that a session may run with. -/
def Valid (cfg : Config) : Prop := cfg.baudrate ∈ supportedBaudrates ∧ 0 ≤ cfg.delayUs

instance (cfg : Config) : Decidable cfg.Valid := by unfold Valid; infer_instance

/-- The settings that are used where nothing else is said may be used. -/
theorem valid_default : ({} : Config).Valid := by decide

end Config

end SerialTerminal
