import FlatTables.Command.Options
import FlatTables.Log.Event

/-!
# The command line

The program takes a subcommand for each operation, one that runs a descriptor and one that shows
the version. Options about the run as a whole (`Globals`) may stand before the subcommand or
behind it, where they win. `Invocation.parse` reads a whole command line. The arguments behind
the subcommand are read to their end first, so a fault among them is reported before an option of
the program that is still pending is settled.
-/

set_option autoImplicit false
set_option relaxedAutoImplicit false

namespace FlatTables.Command

/-- The options about the run as a whole. -/
structure Globals where
  verbose : Bool := false
  logLevel : Option Severity := none
  config : Option String := none
  directory : Option String := none
  pretty : Bool := false
deriving DecidableEq

namespace Globals

/-- Options of which those of the second set win where both are given. -/
def override (outer inner : Globals) : Globals where
  verbose := outer.verbose || inner.verbose
  logLevel := inner.logLevel <|> outer.logLevel
  config := inner.config <|> outer.config
  directory := inner.directory <|> outer.directory
  pretty := outer.pretty || inner.pretty

end Globals

/-- What a subcommand asks for. -/
inductive Request
  | select (table : String) (columns : List String) (filter : Option (String × String))
      (join : Option Join) (sort : Option OrderBy)
  | insert (table : String) (assignments : List (String × String))
  | update (table : String) (assignments : List (String × String))
      (filter : Option (String × String))
  | delete (table : String) (filter : Option (String × String))
  | run (descriptor : String)
  | version
deriving DecidableEq

/-- A command line that is in order. -/
structure Invocation where
  globals : Globals
  request : Request
deriving DecidableEq

/-- What the arguments of a subcommand have said so far. -/
structure Draft where
  globals : Globals := {}
  /-- The table, or the path of a descriptor. -/
  subject : Option String := none
  columns : List String := []
  filter : Option (String × String) := none
  join : Option Join := none
  sort : Option OrderBy := none
  assignments : List (String × String) := []

namespace Draft

/-- The level names that `--log-level` takes. -/
def logLevels : List (String × Severity) :=
  [("error", .error), ("warn", .warn), ("info", .info), ("debug", .debug), ("trace", .trace)]

/-- Changes the options about the run. -/
def withGlobals (change : Globals → Globals) (draft : Draft) : Draft :=
  { draft with globals := change draft.globals }

/-- A path, which may not be empty. -/
def path (text : String) : Except UsageError String :=
  if text = "" then .error .invalidValue else .ok text

/-- A clause, or the reason why the text is none. -/
def clause {α : Type} (result : Except ClauseError α) : Except UsageError α :=
  result.mapError .valueValidation

/-- The options about the run. -/
def globalOptions : List (Opt Draft) := [
  { long := "verbose", short := some 'v'
    action := .flag (withGlobals fun globals ↦ { globals with verbose := true }) },
  { long := "log-level"
    action := .value false fun text draft ↦
      match logLevels.lookup text with
      | some level => .ok (draft.withGlobals fun globals ↦ { globals with logLevel := some level })
      | none => .error .invalidValue },
  { long := "config", short := some 'c'
    action := .value false fun text draft ↦ do
      let file ← path text
      return draft.withGlobals fun globals ↦ { globals with config := some file } },
  { long := "data-dir", short := some 'd'
    action := .value false fun text draft ↦ do
      let directory ← path text
      return draft.withGlobals fun globals ↦ { globals with directory := some directory } },
  { long := "pretty"
    action := .flag (withGlobals fun globals ↦ { globals with pretty := true }) },
  { long := "help", short := some 'h', action := .help }]

/-- The columns of a select, parted by commas. -/
def columnsOption : Opt Draft where
  long := "columns"
  action := .value true fun text draft ↦
    .ok { draft with columns := draft.columns ++ Text.cut ',' text }

/-- The filter of a subcommand. -/
def whereOption : Opt Draft where
  long := "where"
  action := .value false fun text draft ↦ do
    return { draft with filter := some (← clause (assignmentOfText text)) }

/-- The join of a select. -/
def joinOption : Opt Draft where
  long := "join"
  action := .value false fun text draft ↦ do
    return { draft with join := some (← clause (Join.ofText text)) }

/-- The ordering of a select. -/
def orderByOption : Opt Draft where
  long := "order-by"
  action := .value false fun text draft ↦ do
    return { draft with sort := some (← clause (OrderBy.ofText text)) }

/-- One assignment of an insert or an update. -/
def setOption : Opt Draft where
  long := "set"
  action := .value true fun text draft ↦ do
    return { draft with assignments := draft.assignments ++ [← clause (assignmentOfText text)] }

/-- The name of a table. -/
def tableArgument : Positional Draft := fun text draft ↦
  .ok { draft with subject := some text }

/-- The path of a descriptor. -/
def descriptorArgument : Positional Draft := fun text draft ↦ do
  return { draft with subject := some (← path text) }

/-- The table or descriptor that has to be given. -/
def required (draft : Draft) : Except UsageError String :=
  match draft.subject with
  | some subject => .ok subject
  | none => .error .missingRequiredArgument

end Draft

/-- A subcommand: its arguments and what they amount to. -/
structure Subcommand where
  name : String
  options : List (Opt Draft) := []
  positionals : List (Positional Draft) := []
  request : Draft → Except UsageError Request

namespace Subcommand

open Draft

/-- The subcommands, apart from the one that shows help. -/
def all : List Subcommand := [
  { name := "select"
    options := [columnsOption, whereOption, joinOption, orderByOption]
    positionals := [tableArgument]
    request := fun draft ↦ do
      return .select (← draft.required) draft.columns draft.filter draft.join draft.sort },
  { name := "insert"
    options := [setOption]
    positionals := [tableArgument]
    request := fun draft ↦ do return .insert (← draft.required) draft.assignments },
  { name := "update"
    options := [setOption, whereOption]
    positionals := [tableArgument]
    request := fun draft ↦ do
      let table ← draft.required
      if draft.assignments.isEmpty then .error .missingRequiredArgument
      else return .update table draft.assignments draft.filter },
  { name := "delete"
    options := [whereOption]
    positionals := [tableArgument]
    request := fun draft ↦ do return .delete (← draft.required) draft.filter },
  { name := "run"
    positionals := [descriptorArgument]
    request := fun draft ↦ do return .run (← draft.required) },
  { name := "version"
    request := fun _ ↦ return .version }]

/-- The level of a subcommand. -/
def level (subcommand : Subcommand) : Level Draft where
  options := subcommand.options ++ globalOptions
  positionals := subcommand.positionals

/-- Reads the arguments behind the name of a subcommand. -/
def parse (subcommand : Subcommand) (arguments : List String) : Except UsageError Invocation := do
  let (progress, _) ← subcommand.level.scan (subcommand.level.start {}) arguments
  let draft := (← progress.settle).draft
  return { globals := draft.globals, request := ← subcommand.request draft }

end Subcommand

namespace Invocation

/-- The name of the subcommand that shows help. -/
def helpName : String := "help"

/-- The level of the program. -/
def level : Level Draft where
  options := Draft.globalOptions ++
    [{ long := "version", short := some 'V', action := .version }]
  subcommands := Subcommand.all.map Subcommand.name ++ [helpName]

/-- What asking for help comes to: the names behind it have to lead to a subcommand. -/
def help : List String → UsageError
  | [] => .displayHelp
  | [name] => if level.subcommands.contains name then .displayHelp else .invalidSubcommand
  | _ => .invalidSubcommand

/-- Reads a command line, without the name of the program. -/
def parse (arguments : List String) : Except UsageError Invocation := do
  let (progress, rest) ← level.scan (level.start {}) arguments
  match rest with
  | none =>
    let settled ← progress.settle
    if settled.given.isEmpty then .error .displayHelpOnMissing else .error .missingSubcommand
  | some (name, arguments) =>
    match Subcommand.all.find? fun subcommand ↦ subcommand.name == name with
    | none => .error (help arguments)
    | some subcommand =>
      let inner ← subcommand.parse arguments
      let outer := (← progress.settle).draft.globals
      return { inner with globals := outer.override inner.globals }

end Invocation

end FlatTables.Command
