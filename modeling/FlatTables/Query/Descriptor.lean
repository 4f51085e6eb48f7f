import FlatTables.Json.Fields
import FlatTables.Json.Value
import FlatTables.Query.Basic

/-!
# Queries as JSON text

A descriptor is the JSON text of a query: an object with a field for each clause. `Query.toJson`
writes every clause, absent ones as `null`; `Query.ofText` reads them in any order and also
accepts a text that leaves out absent clauses, the projection of all columns or the ascending
direction, or that lists the clauses in an array.
-/

set_option autoImplicit false
set_option relaxedAutoImplicit false

namespace FlatTables

open Json

/-! ### Reading -/

namespace Operation

/-- Reads the name of an operation. -/
def reader : Reader Operation :=
  Reader.variant (all.map fun operation ↦ (operation.name, operation))

end Operation

namespace Direction

/-- Reads the name of a direction. -/
def reader : Reader Direction :=
  Reader.variant (all.map fun direction ↦ (direction.name, direction))

end Direction

namespace Projection

/-- The texts of an array that holds nothing else. -/
def texts? : List Value → Option (List String)
  | [] => some []
  | .string text :: rest => (texts? rest).map (text :: ·)
  | _ :: _ => none

/-- The projection that a value stands for: the star, or a list of names. -/
def ofValue : Value → Except Mismatch Projection
  | .string text => if text = "*" then .ok .all else .error (.projectionText text)
  | .array elements =>
    match texts? elements with
    | some names => .ok (.columns names)
    | none => .error .projectionShape
  | _ => .error .projectionShape

/-- Reads a projection. The value is read as a whole before it is looked at, one level below the
descriptor. -/
def reader : Reader Projection := do
  let value ← Value.reader (Value.maxDepth - 1)
  match ofValue value with
  | .ok projection => return projection
  | .error detail => Reader.refuse detail

end Projection

namespace Filter

/-- How a filter is read. -/
def shape : Shape Filter where
  title := "struct Filter"
  start := ⟨"", ""⟩
  slots := [
    ⟨"column", true, fun filter ↦ do return { filter with column := ← Reader.string "a string" }⟩,
    ⟨"value", true, fun filter ↦ do return { filter with value := ← Reader.string "a string" }⟩]

end Filter

namespace Join

/-- How a join is read. -/
def shape : Shape Join where
  title := "struct JoinSpec"
  start := ⟨"", "", ""⟩
  slots := [
    ⟨"column", true, fun join ↦ do return { join with column := ← Reader.string "a string" }⟩,
    ⟨"table", true, fun join ↦ do return { join with table := ← Reader.string "a string" }⟩,
    ⟨"other_column", true, fun join ↦ do
      return { join with otherColumn := ← Reader.string "a string" }⟩]

end Join

namespace OrderBy

/-- How an ordering is read. -/
def shape : Shape OrderBy where
  title := "struct SortSpec"
  start := ⟨"", .ascending⟩
  slots := [
    ⟨"column", true, fun order ↦ do return { order with column := ← Reader.string "a string" }⟩,
    ⟨"direction", false, fun order ↦ do return { order with direction := ← Direction.reader }⟩]

end OrderBy

namespace Payload

/-- Reads a payload; of a name that comes twice the last value is kept. -/
def reader : Reader Payload :=
  Reader.strings empty insert

end Payload

namespace Query

/-- How a query is read. -/
def shape : Shape Query where
  title := "struct QueryDescriptor"
  start := { operation := .select }
  slots := [
    ⟨"operation", true, fun query ↦ do return { query with operation := ← Operation.reader }⟩,
    ⟨"table", false, fun query ↦ do
      return { query with table := ← Reader.nullable (Reader.string "a string") }⟩,
    ⟨"projection", false, fun query ↦ do
      return { query with projection := ← Projection.reader }⟩,
    ⟨"filter", false, fun query ↦ do
      return { query with filter := ← Reader.nullable Filter.shape.reader }⟩,
    ⟨"join", false, fun query ↦ do
      return { query with join := ← Reader.nullable Join.shape.reader }⟩,
    ⟨"sort", false, fun query ↦ do
      return { query with sort := ← Reader.nullable OrderBy.shape.reader }⟩,
    ⟨"payload", false, fun query ↦ do
      return { query with payload := ← Reader.nullable Payload.reader }⟩]

/-- The query that a descriptor describes. -/
def ofText (text : String) : Except Problem Query :=
  shape.reader.readAll text

end Query

/-! ### Writing -/

namespace Json.Value

/-- A value that may be absent, as `null` then. -/
def ofOption {α : Type} (write : α → Value) : Option α → Value
  | some value => write value
  | none => .null

end Json.Value

namespace Projection

/-- A projection as a value. -/
def toJson : Projection → Value
  | .all => .string "*"
  | .columns names => .array (names.map .string)

end Projection

namespace Filter

/-- A filter as a value. -/
def toJson (filter : Filter) : Value :=
  .object [("column", .string filter.column), ("value", .string filter.value)]

end Filter

namespace Join

/-- A join as a value. -/
def toJson (join : Join) : Value :=
  .object [("column", .string join.column), ("table", .string join.table),
    ("other_column", .string join.otherColumn)]

end Join

namespace OrderBy

/-- An ordering as a value. -/
def toJson (order : OrderBy) : Value :=
  .object [("column", .string order.column), ("direction", .string order.direction.name)]

end OrderBy

namespace Payload

/-- A payload as a value. -/
def toJson (payload : Payload) : Value :=
  .object (payload.entries.map fun (column, value) ↦ (column, .string value))

end Payload

namespace Query

/-- A query as a value. -/
def toJson (query : Query) : Value :=
  .object [
    ("operation", .string query.operation.name),
    ("table", .ofOption .string query.table),
    ("projection", query.projection.toJson),
    ("filter", .ofOption Filter.toJson query.filter),
    ("join", .ofOption Join.toJson query.join),
    ("sort", .ofOption OrderBy.toJson query.sort),
    ("payload", .ofOption Payload.toJson query.payload)]

/-- The descriptor of a query. -/
def toText (query : Query) : String :=
  query.toJson.compact

end Query

end FlatTables
