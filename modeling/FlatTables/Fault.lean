import FlatTables.Clause
import FlatTables.File.Failure
import FlatTables.Json.Problem
import FlatTables.Sheet.Basic

/-!
# Faults

Why a table or a query could not do what was asked of it. A fault says what is wrong;
`Fault.message` puts it into words and `Fault.details` shows it with its parts.
-/

set_option autoImplicit false
set_option relaxedAutoImplicit false

namespace FlatTables

/-- What is wrong with the text of a table. -/
inductive Flaw
  | unterminatedQuote
  | missingHeader
  | duplicateColumn (column : String)
  | fieldCount (expected found : Nat)
  /-- No 64-bit integer is greater than every id. -/
  | noNextId
deriving DecidableEq

namespace Flaw

/-- The text of a flaw. -/
def message : Flaw → String
  | .unterminatedQuote => "unterminated quoted field"
  | .missingHeader => "missing header line"
  | .duplicateColumn column => "duplicate column '" ++ column ++ "'"
  | .fieldCount expected found =>
    "expected " ++ toString expected ++ " fields, found " ++ toString found
  | .noNextId => "id column has no successor"

end Flaw

/-- A clause that an operation cannot do without. -/
inductive Need
  | table
  | payload
deriving DecidableEq

/-- Why something could not be done. -/
inductive Fault
  /-- There is no file for a table. -/
  | tableNotFound (path : String)
  | unknownColumn (column table : String)
  /-- A query lacks a clause. -/
  | notReady (operation : Operation) (need : Need)
  /-- The text of a table is wrong at a line; line zero stands for the table as a whole. -/
  | malformed (path : String) (line : Nat) (flaw : Flaw)
  | file (failure : FileFailure)
  /-- The text of a configuration is refused. -/
  | config (path : String) (problem : Json.Problem)

namespace Fault

/-- An unknown column as a fault. -/
def ofUnknownColumn (unknown : UnknownColumn) : Fault :=
  .unknownColumn unknown.column unknown.sheet

/-- What a query lacks, in words. -/
def needMessage (operation : Operation) : Need → String
  | .table => operation.name ++ " requires a target table"
  | .payload => operation.name ++ " requires a payload"

/-- The text of a fault. -/
def message : Fault → String
  | .tableNotFound path => "Table not found: " ++ path
  | .unknownColumn column table => "Unknown column '" ++ column ++ "' in table '" ++ table ++ "'"
  | .notReady operation need => "Query not ready: " ++ needMessage operation need
  | .malformed path line flaw =>
    "Malformed table file " ++ path ++ " at line " ++ toString line ++ ": " ++ flaw.message
  | .file failure => "I/O error: " ++ failure.message
  | .config path problem =>
    "Invalid configuration file " ++ path ++ ": " ++ problem.summary

/-- A fault with its parts. -/
def details : Fault → String
  | .tableNotFound path => "NotFound \x7b path: " ++ quoted path ++ " \x7d"
  | .unknownColumn column table =>
    "UnknownColumn \x7b column: " ++ quoted column ++ ", table: " ++ quoted table ++ " \x7d"
  | .notReady operation need => "NotReady(" ++ quoted (needMessage operation need) ++ ")"
  | .malformed path line flaw =>
    "Malformed \x7b path: " ++ quoted path ++ ", line: " ++ toString line ++ ", reason: " ++
      quoted flaw.message ++ " \x7d"
  | .file failure => "Io(" ++ failure.details ++ ")"
  | .config path problem =>
    "Config \x7b path: " ++ quoted path ++ ", source: " ++ problem.details ++ " \x7d"

end Fault

end FlatTables
