/-!
# The clauses of a query

What a query does (`Operation`) and the parts that say how: which columns it returns
(`Projection`), which rows it touches (`Filter`), which table it is joined with (`Join`) and how
its rows are ordered (`OrderBy`). Columns are named by text, exactly and with case.
-/

set_option autoImplicit false
set_option relaxedAutoImplicit false

namespace FlatTables

/-- What a query does. -/
inductive Operation
  | select
  | insert
  | update
  | delete
deriving DecidableEq

namespace Operation

/-- The name that messages and answers use. -/
def name : Operation → String
  | .select => "SELECT"
  | .insert => "INSERT"
  | .update => "UPDATE"
  | .delete => "DELETE"

/-- Every operation, in the order in which messages list them. -/
def all : List Operation :=
  [.select, .insert, .update, .delete]

end Operation

/-- The columns that a query returns. -/
inductive Projection
  /-- Every column, in the order of the header. -/
  | all
  /-- The listed columns, in the listed order. -/
  | columns (names : List String)
deriving DecidableEq

/-- The rows whose field in `column` is exactly `value`. -/
structure Filter where
  column : String
  value : String
deriving DecidableEq

/-- The pairs of a row and a row of `table` with equal fields in `column` and `otherColumn`. -/
structure Join where
  column : String
  table : String
  otherColumn : String
deriving DecidableEq

/-- The direction of an ordering. -/
inductive Direction
  | ascending
  | descending
deriving DecidableEq

namespace Direction

/-- The name that descriptors use. -/
def name : Direction → String
  | .ascending => "asc"
  | .descending => "desc"

/-- Both directions, in the order in which messages list them. -/
def all : List Direction :=
  [.ascending, .descending]

end Direction

/-- An ordering by one column. -/
structure OrderBy where
  column : String
  direction : Direction := .ascending
deriving DecidableEq

end FlatTables
