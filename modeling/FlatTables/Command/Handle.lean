import FlatTables.Command.Line
import FlatTables.ConfigFile
import FlatTables.Query.Descriptor
import FlatTables.Query.Execute

/-!
# Carrying out a command line

The configuration is read first, then the query is put together, and then it is carried out. The
clauses given on the command line become the clauses of the query one by one; a select without
columns asks for all of them.
-/

set_option autoImplicit false
set_option relaxedAutoImplicit false

namespace FlatTables.Command

/-- Why a command line that is in order could not be carried out. -/
inductive CommandError
  | fault (cause : Fault)
  /-- The text of a descriptor is refused. -/
  | descriptor (problem : Json.Problem)
  /-- A descriptor could not be read. -/
  | input (failure : FileFailure)
  /-- The version is no query. -/
  | notQuery

namespace CommandError

/-- The text of an error. -/
def message : CommandError → String
  | .fault cause => cause.message
  | .descriptor problem => problem.summary
  | .input failure => failure.message
  | .notQuery => "version does not run a query"

/-- An error with its parts. -/
def details : CommandError → String
  | .fault cause => cause.details
  | .descriptor problem => problem.details
  | .input failure => failure.details
  | .notQuery => quoted (message .notQuery)

end CommandError

namespace Globals

/-- The configuration of a run: from the file that is named, or the default one, in the
directory that is named. -/
def configuration (globals : Globals) : Procedure (Except Fault Config) := do
  let base ← match globals.config with
    | none => pure (.ok {})
    | some path => Config.load path
  return base.map fun config ↦
    match globals.directory with
    | some directory => { config with directory }
    | none => config

end Globals

namespace Request

/-- The filter that an assignment stands for. -/
def filterOf (condition : Option (String × String)) : Option Filter :=
  condition.map fun (column, value) ↦ ⟨column, value⟩

/-- The name of a descriptor that stands for the standard input. -/
def inputName : String := "-"

/-- The text of a descriptor. -/
def descriptorText (path : String) : Procedure (Except FileFailure String) :=
  if path = inputName then Procedure.inputText else Procedure.textOf path

/-- The query that a request asks for. -/
def query : Request → Procedure (Except CommandError Query)
  | .select table columns filter join sort =>
    return .ok { Query.on .select table with
      projection := if columns.isEmpty then .all else .columns columns
      filter := filterOf filter
      join
      sort }
  | .insert table assignments =>
    return .ok { Query.on .insert table with payload := some (.ofList assignments) }
  | .update table assignments filter =>
    return .ok { Query.on .update table with
      payload := some (.ofList assignments)
      filter := filterOf filter }
  | .delete table filter =>
    return .ok { Query.on .delete table with filter := filterOf filter }
  | .run path => do
    match ← descriptorText path with
    | .error failure => return .error (.input failure)
    | .ok text => return (Query.ofText text).mapError .descriptor
  | .version => return .error .notQuery

end Request

namespace Invocation

/-- The text that an answer is printed as. -/
def render (invocation : Invocation) (answer : Answer) : String :=
  (if invocation.globals.pretty then answer.toJson.pretty else answer.toJson.compact) ++ "\n"

/-- Carries out a command line that asks for a query and gives what it prints. -/
def handle (invocation : Invocation) : Procedure (Except CommandError String) := do
  match ← invocation.globals.configuration with
  | .error fault => return .error (.fault fault)
  | .ok config =>
    Procedure.log (.usingDirectory config.directory)
    match ← invocation.request.query with
    | .error error => return .error error
    | .ok query =>
      match ← query.execute config with
      | .error fault => return .error (.fault fault)
      | .ok answer => return .ok (invocation.render answer)

end Invocation

end FlatTables.Command
