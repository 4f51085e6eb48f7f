import FlatTables.Clause
import FlatTables.Text.Quoted

/-!
# Events

What a run reports while it works. An event is kept as what happened; its severity, its source (the
part of the program it comes from) and its text follow from that.
-/

set_option autoImplicit false
set_option relaxedAutoImplicit false

namespace FlatTables

/-- How much an event matters, most first. -/
inductive Severity
  | error
  | warn
  | info
  | debug
  | trace
deriving DecidableEq

namespace Severity

/-- Every severity, the one that matters most first. -/
def all : List Severity :=
  [.error, .warn, .info, .debug, .trace]

/-- The name that log lines use. -/
def name : Severity → String
  | .error => "ERROR"
  | .warn => "WARN"
  | .info => "INFO"
  | .debug => "DEBUG"
  | .trace => "TRACE"

/-- The place of a severity among all of them, starting from one. -/
def rank : Severity → Nat
  | .error => 1
  | .warn => 2
  | .info => 3
  | .debug => 4
  | .trace => 5

end Severity

/-- Something that happened during a run. -/
inductive Event
  /-- The directory of the tables is settled. -/
  | usingDirectory (directory : String)
  /-- A query begins. -/
  | executing (operation : Operation) (table : Option String)
  /-- A short row was filled up. -/
  | padded (path : String) (line found expected : Nat)
  | loaded (name path : String) (columns rows : Nat)
  | filtered (filter : Filter) (name : String) (kept total : Nat)
  | joined (left column right otherColumn : String) (leftRows rightRows rows : Nat)
  | selected (name : String) (rows : Nat)
  | persisted (name path : String) (rows : Nat)
  | inserted (id : Int) (name : String)
  | updated (count : Nat) (name : String)
  | deleted (count : Nat) (name : String)
deriving DecidableEq

namespace Event

/-- How much an event matters. -/
def severity : Event → Severity
  | .padded .. => .warn
  | .inserted .. | .updated .. | .deleted .. => .info
  | .usingDirectory .. | .executing .. | .loaded .. | .filtered .. | .joined .. | .selected ..
  | .persisted .. => .debug

/-- The part of the program that an event comes from. -/
def source : Event → String
  | .usingDirectory .. => "tablite::cli::handlers"
  | .executing .. | .selected .. => "tablite::query::executor"
  | .filtered .. | .joined .. => "tablite::storage::row_set"
  | .padded .. | .loaded .. | .persisted .. | .inserted .. | .updated .. | .deleted .. =>
    "tablite::storage::table"

/-- The text of an event. -/
def message : Event → String
  | .usingDirectory directory => "Using data directory " ++ directory
  | .executing operation table =>
    "Executing " ++ operation.name ++ " on " ++ quotedOption table
  | .padded path line found expected =>
    path ++ ":" ++ toString line ++ ": padding row with " ++ toString found ++ " of " ++
      toString expected ++ " fields"
  | .loaded name path columns rows =>
    "Loaded table '" ++ name ++ "' from " ++ path ++ ": " ++ toString columns ++ " columns, " ++
      toString rows ++ " rows"
  | .filtered filter name kept total =>
    "Filter " ++ filter.column ++ "='" ++ filter.value ++ "' on '" ++ name ++ "' kept " ++
      toString kept ++ " of " ++ toString total ++ " rows"
  | .joined left column right otherColumn leftRows rightRows rows =>
    "Joined '" ++ left ++ "'." ++ column ++ " with '" ++ right ++ "'." ++ otherColumn ++ ": " ++
      toString leftRows ++ " x " ++ toString rightRows ++ " rows -> " ++ toString rows ++ " rows"
  | .selected name rows => "SELECT on '" ++ name ++ "' returned " ++ toString rows ++ " rows"
  | .persisted name path rows =>
    "Persisted table '" ++ name ++ "' to " ++ path ++ " (" ++ toString rows ++ " rows)"
  | .inserted id name => "Inserted row " ++ toString id ++ " into '" ++ name ++ "'"
  | .updated count name => "Updated " ++ toString count ++ " rows in '" ++ name ++ "'"
  | .deleted count name => "Deleted " ++ toString count ++ " rows from '" ++ name ++ "'"

end Event

end FlatTables
