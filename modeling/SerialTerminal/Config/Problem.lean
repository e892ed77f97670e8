import SerialTerminal.Config.Layer

/-!
# Problems of a configuration

Why no configuration comes about: values at fault, or a command line that names too many devices or
a delay that no line can keep.

These are the errors of class (a) in `SPEC_FULL.md` §7, `ConfigurationError` in §14.
-/

namespace SerialTerminal.Config

/-- Why no configuration comes about. -/
inductive Problem where
  | faults (found : Faults)
  | tooManyDevices
  | negativeDelay
deriving DecidableEq, Repr

/-- The wording of a problem. -/
def Problem.message : Problem → String
  | .faults found => describe found
  | .tooManyDevices => "Too many arguments"
  | .negativeDelay => "Delay must not be negative"

end SerialTerminal.Config
