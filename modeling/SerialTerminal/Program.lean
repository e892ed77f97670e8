import SerialTerminal.CommandLine.Resolution
import SerialTerminal.CommandLine.Usage
import SerialTerminal.Journal
import SerialTerminal.Session

/-!
# Program

From a command line to the end of a session. The command line is read, the configuration put
together and the journal set up; only then is the line opened. Whatever goes wrong before that
leaves the line, the keyboard and the screen alone.

A configuration that does not come about is reported in the journal, with the usage on the error
stream, and so is a log directory that cannot be used, without the usage. Both make the exit status
1. Other failures end the program as they are.

The exit statuses are those of `SPEC_FULL.md` §7 and §14.
-/

namespace SerialTerminal

/-- How a program ends. -/
inductive Ending where
  /-- With an exit status. -/
  | status (code : Nat)
  /-- At once, after a look at the command line. -/
  | exit (code : Nat)
  | failed (cause : Failure)

/-- What a program leaves behind. -/
structure Report where
  ending : Ending
  /-- The configuration that a session was run with. -/
  config : Option Config
  standardOutput : String
  standardError : String

/-- The world that a program meets, its files apart. -/
structure World where
  environment : Config.Environment
  session : Session

namespace Program

/-- A report without printed text. -/
def quiet (ending : Ending) (config : Option Config) : Report := ⟨ending, config, "", ""⟩

/-- What the preparation of a program comes to. -/
inductive Preparation where
  /-- A session is to be run. -/
  | ready (cfg : Config)
  /-- There is nothing left to do. -/
  | over (report : Report)

/-- Sets up the journal. A directory that cannot be used is reported, and nothing else is done. -/
def setUp (cfg : Config) : Act Journal Preparation := do
  match ← Act.attempt (Journal.configure cfg.debug cfg.logDir) with
  | .ok () => return .ready cfg
  | .error e =>
    if e.isSystem then do
      Journal.log .error s!"Cannot log to {cfg.logDir}: {e.message}"
      return .over (quiet (.status 1) none)
    else return .over (quiet (.failed e) none)

/-- Reports a configuration that did not come about. -/
def refuse (e : Failure) : Act Journal Preparation :=
  match e with
  | .misconfigured cause => do
    Journal.log .error cause.message
    return .over ⟨.status 1, none, "", CommandLine.usage⟩
  | other => return .over (quiet (.failed other) none)

/-- Puts a configuration together and sets up the journal. -/
def resolve (options : CommandLine.Options) (env : Config.Environment) :
    Act Journal Preparation := do
  let tree ← Act.gets Journal.tree
  let step := (options.resolve env).run tree
  Journal.follow step.events
  match step.outcome with
  | .ok cfg => setUp cfg
  | .error e => refuse e

/-- Reads a command line and prepares a session. -/
def prepare (arguments : List String) (env : Config.Environment) : Act Journal Preparation :=
  match CommandLine.parse arguments with
  | .ok options => resolve options env
  | .error .help => return .over ⟨.exit 0, none, CommandLine.help, ""⟩
  | .error (.misuse e) => return .over ⟨.exit 2, none, "", CommandLine.report e⟩

/-- Runs a session with a configuration. -/
def converse (cfg : Config) (session : Session) : Act Journal Report := do
  let step := (Session.run cfg).run session
  Journal.follow step.events
  match step.outcome with
  | .ok code => return quiet (.status code) (some cfg)
  | .error e => return quiet (.failed e) (some cfg)

/-- Runs a program with the arguments of a command line (`main`). -/
def run (arguments : List String) (world : World) : Act Journal Report := do
  match ← prepare arguments world.environment with
  | .ready cfg => converse cfg world.session
  | .over report => return report

end Program

end SerialTerminal
