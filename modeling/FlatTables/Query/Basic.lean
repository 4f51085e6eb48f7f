import FlatTables.Clause
import FlatTables.Query.Payload

/-!
# Queries

A query is an operation with its optional clauses. Nothing in it is checked against tables, and
a clause that its operation has no use for is allowed; whether the clauses that the operation
needs are there is found out when the query is run.

A query is put together by settings (`Setting`), each of which replaces one clause, apart from
`set`, which adds one assignment to the payload.
-/

set_option autoImplicit false
set_option relaxedAutoImplicit false

namespace FlatTables

/-- An operation with its clauses. -/
structure Query where
  operation : Operation
  table : Option String := none
  projection : Projection := .all
  filter : Option Filter := none
  join : Option Join := none
  sort : Option OrderBy := none
  payload : Option Payload := none
deriving DecidableEq

/-- One step in putting a query together. -/
inductive Setting
  | table (name : String)
  | projection (projection : Projection)
  | columns (names : List String)
  | allColumns
  | filter (column value : String)
  | join (column table otherColumn : String)
  | orderBy (column : String) (direction : Direction)
  | payload (payload : Payload)
  | set (column value : String)
deriving DecidableEq

namespace Query

/-- The query of an operation on a table, with no other clause. -/
def on (operation : Operation) (table : String) : Query :=
  { operation, table := some table }

/-- The query after one setting. -/
def apply (query : Query) : Setting → Query
  | .table name => { query with table := some name }
  | .projection projection => { query with projection }
  | .columns names => { query with projection := .columns names }
  | .allColumns => { query with projection := .all }
  | .filter column value => { query with filter := some ⟨column, value⟩ }
  | .join column table otherColumn => { query with join := some ⟨column, table, otherColumn⟩ }
  | .orderBy column direction => { query with sort := some ⟨column, direction⟩ }
  | .payload payload => { query with payload := some payload }
  | .set column value =>
    { query with payload := some ((query.payload.getD .empty).insert column value) }

/-- The query after a list of settings, made in order. -/
def build (start : Query) (settings : List Setting) : Query :=
  settings.foldl apply start

end Query

end FlatTables
