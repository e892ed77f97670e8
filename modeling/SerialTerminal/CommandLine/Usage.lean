import SerialTerminal.CommandLine.Switch

/-!
# Usage texts

What the program tells about its command line: a summary of the switches, help on each of them and
the report of a usage error.

The switches are those of `SPEC_FULL.md` §12.
-/

namespace SerialTerminal.CommandLine

/-- Lines of text, each with its end. -/
def textOfLines (lines : List String) : String :=
  String.join (lines.map fun line => line ++ "\n")

/-- The summary of the command line. -/
def usage : String := textOfLines
  ["usage: serialdump [-h] [-b BAUDRATE] [-x] [-i] [-s] [-so] [-sn] [-t] [-t0]",
   "                  [-T FORMAT] [-d DELAY] [-c PATH] [--logdir DIR] [--debug]",
   "                  [SERIALDEVICE ...]"]

/-- Help on the operands and on each switch. -/
def details : String := textOfLines
  ["",
   "Serial line terminal with text, timestamp, decimal, hex and SLIP views",
   "",
   "positional arguments:",
   "  SERIALDEVICE          serial device",
   "",
   "options:",
   "  -h, --help            show this help message and exit",
   "  -b BAUDRATE, -B BAUDRATE",
   "                        line speed (default 57600)",
   "  -x                    hexadecimal output",
   "  -i                    decimal output",
   "  -s                    automatic SLIP mode",
   "  -so                   SLIP only mode (all data is SLIP packets)",
   "  -sn                   hide SLIP packets",
   "  -t                    add time as sec.msec for each text line",
   "  -t0                   add time since start (sec.msec) for each text line",
   "  -T FORMAT             add strftime() formatted time for each text line (-T",
   "                        alone uses '%Y-%m-%d %H:%M:%S')",
   "  -d DELAY              delay in usec between 2 consecutive writes",
   "  -c PATH, --config PATH",
   "                        Path to serialdump.cfg configuration file (default:",
   "                        ./serialdump.cfg)",
   "  --logdir DIR          also log to DIR/serialdump.log",
   "  --debug               debug logging"]

/-- The help text. -/
def help : String := usage ++ details

/-- The report of a usage error. -/
def report (e : UsageError) : String := usage ++ s!"serialdump: error: {e.message}\n"

end SerialTerminal.CommandLine
