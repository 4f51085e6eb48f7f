import FlatTables.Command.Handle
import FlatTables.Log.Filter

/-!
# The program

What the program leaves behind for a command line and an environment: an exit code and what it
writes on the standard output and the standard error output. A run that fails ends with exit code
one and a last line on the error output that shows the error; a command line that is not in order
ends with exit code two, unless it asks for help or for the version.
-/

set_option autoImplicit false
set_option relaxedAutoImplicit false

namespace FlatTables.Program

open Command

/-- The variables of the environment. -/
abbrev Environment := List (String × String)

/-- The variable that forces colours. -/
def colourVariable : String := "CLICOLOR_FORCE"

/-- The variable that holds the directives for the log. -/
def logVariable : String := "RUST_LOG"

/-- The variables that the program looks at. -/
def observedVariables : List String :=
  [colourVariable, logVariable]

/-- What the program leaves behind. -/
structure Report where
  exitCode : Nat
  output : String := ""
  errors : String := ""
deriving DecidableEq

/-- The version of the program. -/
def version : String := "0.0.1"

/-- Whether output is to be coloured although it goes to no terminal. -/
def isColoured (environment : Environment) : Bool :=
  match environment.lookup colourVariable with
  | some value => value != "0"
  | none => false

/-- What the version subcommand prints. -/
def versionText (environment : Environment) : String :=
  let name := if isColoured environment then "\x1b[1;32mTablite\x1b[0m" else "Tablite"
  name ++ " " ++ version ++ "\nRelational queries over delimited text files\n"

/-- What the program does for a command line that is in order. -/
def procedure (environment : Environment) (invocation : Invocation) :
    Procedure (Except CommandError String) :=
  match invocation.request with
  | .version => return .ok (versionText environment)
  | _ => invocation.handle

/-- The least severity that is logged unless a directive says otherwise. -/
def severity (globals : Globals) : Severity :=
  if globals.verbose then .debug else globals.logLevel.getD .warn

/-- The filter for the events of a run, with warnings: the directives of the environment, and the
command line for the sources that none of them names. -/
def logFilter (environment : Environment) (globals : Globals) : LogFilter × List String :=
  let (filter, warnings) := match environment.lookup logVariable with
    | some text => LogFilter.ofText text
    | none => ({}, [])
  (filter.set ⟨none, some (severity globals)⟩, warnings)

/-- Lines, each with its end. -/
def lines (texts : List String) : String :=
  String.join (texts.map (· ++ "\n"))

/-- The report on a run. -/
def report (environment : Environment) (invocation : Invocation)
    (result : Except CommandError String) (events : List Event) : Report :=
  let (filter, warnings) := logFilter environment invocation.globals
  let logged := warnings ++ (events.filter filter.allows).map LogFilter.line
  match result with
  | .ok output => { exitCode := 0, output, errors := lines logged }
  | .error error => { exitCode := 1, errors := lines (logged ++ ["Error: " ++ error.details]) }

/-- How the program is used, in a few lines. -/
def usage : String :=
  lines [
    "Query delimited text tables",
    "",
    "Usage: tablite [OPTIONS] <COMMAND>",
    "",
    "Commands:",
    "  select   Read rows from a table",
    "  insert   Append a row; the id is generated",
    "  update   Overwrite columns on matching rows",
    "  delete   Remove matching rows",
    "  run      Execute a JSON query descriptor read from a file (\"-\" for stdin)",
    "  version  Show version information",
    "  help     Print this message",
    "",
    "Options:",
    "  -v, --verbose                Enable debug logging",
    "      --log-level <LOG_LEVEL>  error, warn, info, debug or trace",
    "  -c, --config <CONFIG>        JSON configuration file",
    "  -d, --data-dir <DATA_DIR>    Directory holding table files",
    "      --pretty                 Pretty-print the JSON result",
    "  -h, --help                   Print help",
    "  -V, --version                Print version"]

/-- The report on a command line that is not carried out. -/
def usageReport : UsageError → Report
  | .displayHelp => { exitCode := 0, output := usage }
  | .displayVersion => { exitCode := 0, output := "tablite " ++ version ++ "\n" }
  | .valueValidation error =>
    { exitCode := 2, errors := "error: " ++ error.message ++ "\n\n" ++ usage }
  | _ => { exitCode := 2, errors := usage }

/-- The whole program on a disk: the report on a command line, and the disk after it. -/
def run (environment : Environment) (arguments : List String) (input : ByteArray) (disk : Disk) :
    Report × Disk :=
  match Invocation.parse arguments with
  | .error error => (usageReport error, disk)
  | .ok invocation =>
    let outcome := (procedure environment invocation).run input disk
    (report environment invocation outcome.result outcome.events, outcome.disk)

end FlatTables.Program
