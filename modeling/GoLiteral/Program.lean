import GoLiteral.Invocation
import GoLiteral.Program.Log
import GoLiteral.Program.Surroundings
import GoLiteral.Unicode.Category

/-!
# The program

A run reads its words, opens the log, loads the settings and runs the command, in this order, and
ends with the first of them that fails.
-/

namespace GoLiteral.Program

/-- Why a run fails after its words were understood. -/
inductive Failure where
  | log (path : String)
  /-- The file of settings cannot be read. -/
  | unreadSettings (path : String) (fault : FileFault)
  /-- The file of settings holds something else. -/
  | badSettings (path : String)
  | command (failure : Command.Failure)
  deriving DecidableEq, Repr

namespace Failure

/-- What failed. -/
def headline : Failure → String
  | log path => "failed to open log file '" ++ path ++ "'"
  | unreadSettings path _ => "failed to read config file '" ++ path ++ "'"
  | badSettings path => "failed to parse config file '" ++ path ++ "'"
  | command failure => failure.headline

/-- What failed and why, as far as it is known. -/
def message : Failure → String
  | unreadSettings path fault => (unreadSettings path fault).headline ++ ": " ++ fault.message
  | command failure => failure.message
  | other => other.headline

end Failure

/-- How a run ends. -/
inductive Ending where
  | success
  /-- The help text or the version was shown, or the words were not understood. -/
  | usage (error : Invocation.Arguments.UsageError)
  | failure (failure : Failure)
  deriving DecidableEq, Repr

/-- The exit status of a run. -/
def Ending.exitCode : Ending → Nat
  | success => 0
  | usage .helpAsked => 0
  | usage .versionAsked => 0
  | usage _ => 2
  | failure _ => 1

/-- The line that tells the version. -/
def versionText : String := "the-literal 0.1.0\n"

/-- The help text. -/
def helpText : String :=
  "Decode, encode and map Go string literals\n\n" ++
  "Usage: the-literal [OPTIONS] <COMMAND>\n\n" ++
  "Commands:\n" ++
  "  decode  Print the value a literal stands for\n" ++
  "  encode  Escape text for use inside double quotes\n" ++
  "  map     Map decoded offsets of a literal back to offsets in the literal\n" ++
  "  help    Print this message or the help of the given subcommand(s)\n\n" ++
  "Options:\n" ++
  "  -v...                Increase logging verbosity (repeat for more detail)\n" ++
  "      --log <FILE>     Save logs to a specific file\n" ++
  "  -c, --config <FILE>  Load configuration from a specific file\n" ++
  "  -h, --help           Print help\n" ++
  "  -V, --version        Print version\n"

variable {m : Type → Type} [Monad m]

/-- Logs a record, if that much detail is asked for. -/
def logRecord (s : Surroundings m) (inv : Invocation) (r : LogRecord) : m Unit :=
  if r.level.verbosity ≤ inv.verbosity then s.log inv.log r.line else pure ()

/-- The settings in a file. -/
def readSettings (s : Surroundings m) (path : String) : m (Except Failure Settings) := do
  match ← s.readText path with
  | .error fault => return .error (.unreadSettings path fault)
  | .ok text =>
    match Settings.ofText? text with
    | some settings => return .ok settings
    | none => return .error (.badSettings path)

/-- The file with the settings for a run: the one that is named, which then has to be there, or
else that of the user, if it is. -/
def settingsFile (s : Surroundings m) (env : Environment) (inv : Invocation) :
    m (Option String) := do
  match inv.config, env.configFile? with
  | some path, _ => return some path
  | none, some path => return if ← s.contains path then some path else none
  | none, none => return none

/-- Loads the settings for a run. -/
def loadSettings (s : Surroundings m) (env : Environment) (inv : Invocation) :
    m (Except Failure Settings) := do
  match ← settingsFile s env inv with
  | none =>
    logRecord s inv .noSettings
    return .ok .standard
  | some path =>
    let result ← readSettings s path
    if result.isOk then logRecord s inv (.settingsFrom path)
    return result

/-- Runs the command of an invocation and prints its output. The standard input is read only where
the command has no text of its own. -/
def runCommand (s : Surroundings m) (inv : Invocation) (settings : Settings) :
    m (Except Failure Unit) := do
  logRecord s inv (.running inv.command settings)
  let stdin ← if inv.command.readsStdin then s.stdin else pure .empty
  let (result, printed) := inv.command.outcome Unicode.isHidden settings stdin
  s.print printed
  match result with
  | .ok () => return .ok ()
  | .error failure =>
    if let some bad := failure.badEscape? then
      logRecord s inv (.stopped bad)
    return .error (.command failure)

/-- Runs an invocation. -/
def runInvocation (s : Surroundings m) (env : Environment) (inv : Invocation) :
    m (Except Failure Unit) := do
  if let some path := inv.log then
    unless ← s.openLog path do
      return .error (.log path)
  match ← loadSettings s env inv with
  | .error failure => return .error failure
  | .ok settings => runCommand s inv settings

/-- Runs the program on the words of a command line. -/
def run (s : Surroundings m) (env : Environment) (words : List String) : m Ending := do
  match Invocation.ofArguments words with
  | .error e =>
    match e with
    | .helpAsked => s.print helpText
    | .versionAsked => s.print versionText
    | _ => pure ()
    return .usage e
  | .ok inv =>
    match ← runInvocation s env inv with
    | .ok () => return .success
    | .error failure => return .failure failure

end GoLiteral.Program
