import FlatTables.Clause
import FlatTables.Text.Split

/-!
# Clauses as text

The short forms in which a person writes a clause: `COLUMN=VALUE` for an assignment or a filter,
`COLUMN:TABLE:OTHER_COLUMN` for a join, `COLUMN` or `COLUMN:DIRECTION` for an ordering. A column
name may not be empty. The column of an assignment ends at the first `=`, so its value may hold
others; the direction of an ordering begins at the last `:`, so its column may hold others.
-/

set_option autoImplicit false
set_option relaxedAutoImplicit false

namespace FlatTables

/-- Why a text is no clause of its kind. -/
inductive ClauseError
  | unknownOperation (text : String)
  | unknownDirection (text : String)
  | notAssignment (text : String)
  | notJoin (text : String)
  | notOrderBy (text : String)
deriving DecidableEq

namespace ClauseError

/-- The text of an error. -/
def message : ClauseError → String
  | .unknownOperation text => "unknown operation '" ++ text ++ "'"
  | .unknownDirection text => "unknown sort direction '" ++ text ++ "'"
  | .notAssignment text => "expected COLUMN=VALUE, got '" ++ text ++ "'"
  | .notJoin text => "expected COLUMN:TABLE:OTHER_COLUMN, got '" ++ text ++ "'"
  | .notOrderBy text => "expected COLUMN[:asc|desc], got '" ++ text ++ "'"

end ClauseError

/-- The operation of this name, in any case. -/
def Operation.ofText (text : String) : Except ClauseError Operation :=
  match Operation.all.find? fun operation ↦ Text.sameIgnoringCase operation.name text with
  | some operation => .ok operation
  | none => .error (.unknownOperation text)

/-- The direction of this name, short or in full and in any case. -/
def Direction.ofText (text : String) : Except ClauseError Direction :=
  let isOneOf (names : List String) := names.any (Text.sameIgnoringCase text)
  if isOneOf ["asc", "ascending"] then .ok .ascending
  else if isOneOf ["desc", "descending"] then .ok .descending
  else .error (.unknownDirection text)

/-- A column and the value assigned to it. -/
def assignmentOfText (text : String) : Except ClauseError (String × String) :=
  match Text.cutFirst? '=' text with
  | some (column, value) =>
    if column = "" then .error (.notAssignment text) else .ok (column, value)
  | none => .error (.notAssignment text)

/-- A join: exactly three parts, none of them empty. -/
def Join.ofText (text : String) : Except ClauseError Join :=
  match Text.cut ':' text with
  | [column, table, otherColumn] =>
    if column = "" ∨ table = "" ∨ otherColumn = "" then .error (.notJoin text)
    else .ok ⟨column, table, otherColumn⟩
  | _ => .error (.notJoin text)

/-- An ordering, ascending unless it says otherwise. A wrong direction is reported before an
empty column. -/
def OrderBy.ofText (text : String) : Except ClauseError OrderBy := do
  let (column, direction) ← match Text.cutLast? ':' text with
    | some (column, direction) => do pure (column, ← Direction.ofText direction)
    | none => pure (text, Direction.ascending)
  if column = "" then .error (.notOrderBy text) else return ⟨column, direction⟩

end FlatTables
