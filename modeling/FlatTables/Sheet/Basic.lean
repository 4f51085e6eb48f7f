import FlatTables.Clause
import FlatTables.Sheet.SortKey

/-!
# Sheets

A sheet is a header with rows aligned to it by position, under the name that messages use. It is
what the stages of a query work on: the rows of one table, or those of a join. A row may be
shorter than the header, and then its missing fields read as empty; names in the header may
repeat, and then a name denotes the first column that has it.

Every stage resolves its columns before it looks at a row, so an unknown column is reported for
an empty sheet as well.
-/

set_option autoImplicit false
set_option relaxedAutoImplicit false

namespace FlatTables

/-- A column name that the header of the named sheet does not have. -/
structure UnknownColumn where
  column : String
  sheet : String
deriving DecidableEq

/-- The fields of one row, in the order of the header. -/
abbrev Row := List String

namespace Row

/-- The field at a position, empty when the row is too short. -/
def field (row : Row) (index : Nat) : String :=
  row.getD index ""

/-- What the field at a position is ordered by. -/
def key (row : Row) (index : Nat) : SortKey :=
  .classify row[index]?

/-- The row cut or filled with empty fields to a width. -/
def fit (row : Row) (width : Nat) : Row :=
  row.take width ++ List.replicate (width - row.length) ""

end Row

/-- A named header with its rows. -/
structure Sheet where
  name : String
  header : List String
  rows : List Row
deriving DecidableEq

namespace Sheet

/-- Whether the header has a column of this name. -/
def hasColumn (sheet : Sheet) (column : String) : Bool :=
  sheet.header.contains column

/-- The position of the first column of this name. -/
def columnIndex (sheet : Sheet) (column : String) : Except UnknownColumn Nat :=
  match sheet.header.idxOf? column with
  | some index => .ok index
  | none => .error ⟨column, sheet.name⟩

/-- The listed columns in the listed order, or the sheet itself. -/
def project (sheet : Sheet) : Projection → Except UnknownColumn Sheet
  | .all => .ok sheet
  | .columns names => do
    let indexes ← names.mapM sheet.columnIndex
    return { sheet with header := names, rows := sheet.rows.map fun row ↦ indexes.map row.field }

/-- The rows that a filter keeps, in their order. -/
def filter (sheet : Sheet) (condition : Filter) : Except UnknownColumn Sheet := do
  let index ← sheet.columnIndex condition.column
  return { sheet with rows := sheet.rows.filter fun row ↦ row.field index == condition.value }

/-! ### Ordering -/

/-- Whether a row may stand before another one in ascending order of the column at `index`. -/
def precedes (index : Nat) (left right : Row) : Bool :=
  (left.key index).compare (right.key index) != .gt

/-- Rows ordered by the column at `index`. Rows with an empty field come last, in their order,
whatever the direction; the others are sorted, equal keys keeping their order, and reversed as a
whole when the direction is descending. -/
def sortRows (index : Nat) (direction : Direction) (rows : List Row) : List Row :=
  let (empty, valued) := rows.partition fun row ↦ (row.key index).isEmpty
  let ascending := valued.mergeSort (precedes index)
  (match direction with
    | .ascending => ascending
    | .descending => ascending.reverse) ++ empty

/-- The sheet with its rows ordered by one column. -/
def sort (sheet : Sheet) (order : OrderBy) : Except UnknownColumn Sheet := do
  let index ← sheet.columnIndex order.column
  return { sheet with rows := sortRows index order.direction sheet.rows }

/-! ### Joining -/

/-- What is put behind a name that is taken. -/
def joinSuffix : String := "_right"

/-- The name with suffixes put behind it while it is taken, at most `tries` times. -/
def suffixed (taken : List String) : (tries : Nat) → String → String
  | 0, name => name
  | tries + 1, name =>
    if taken.contains name then suffixed taken tries (name ++ joinSuffix) else name

/-- The name with the fewest suffixes that is not taken. The names tried grow longer each time,
so after as many tries as there are taken names none of those is left. -/
def freshName (taken : List String) (name : String) : String :=
  suffixed taken taken.length name

/-- The left header followed by the names of the right one, each made new to what stands before
it. -/
def joinHeader (left right : List String) : List String :=
  right.foldl (fun header name ↦ header ++ [freshName header name]) left

/-- The rows of a join: for each left row in order, the right rows in order whose fields agree
with it, each row first fitted to its own header. -/
def joinRows (left right : Sheet) (leftIndex rightIndex : Nat) : List Row :=
  left.rows.flatMap fun leftRow ↦
    (right.rows.filter fun rightRow ↦ leftRow.field leftIndex == rightRow.field rightIndex).map
      fun rightRow ↦ leftRow.fit left.header.length ++ rightRow.fit right.header.length

/-- The inner join on equal fields of a left and a right column. -/
def join (left right : Sheet) (column otherColumn : String) : Except UnknownColumn Sheet := do
  let leftIndex ← left.columnIndex column
  let rightIndex ← right.columnIndex otherColumn
  return {
    name := left.name ++ " JOIN " ++ right.name
    header := joinHeader left.header right.header
    rows := joinRows left right leftIndex rightIndex }

end Sheet

end FlatTables
