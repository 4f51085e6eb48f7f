import FlatTables.Clause
import FlatTables.Json.Value
import FlatTables.Sheet.Basic

/-!
# Answers

Every query is answered by records, each a list of columns with their values, and by the number
of rows that were returned or changed. A select returns text values under the columns it was
asked for. The other operations return one record with one number: the id that was generated, or
how many rows were updated or deleted.
-/

set_option autoImplicit false
set_option relaxedAutoImplicit false

namespace FlatTables

open Json

/-- The value of a field in an answer. -/
inductive FieldValue
  | text (content : String)
  | integer (value : Int)
deriving DecidableEq

namespace FieldValue

/-- The text of a text value. -/
def text? : FieldValue → Option String
  | .text content => some content
  | .integer _ => none

/-- The integer of a value; a text is read as a 64-bit integer. -/
def integer? : FieldValue → Option Int
  | .text content => readInt64? content
  | .integer value => some value

/-- The value as a person reads it. -/
def display : FieldValue → String
  | .text content => content
  | .integer value => toString value

/-- The value in JSON. -/
def toJson : FieldValue → Value
  | .text content => .string content
  | .integer value => .integer value

end FieldValue

/-- One row of an answer: columns with their values. A column may come more than once, and then
its name denotes the first. -/
abbrev AnswerRow := List (String × FieldValue)

namespace AnswerRow

/-- The value of a column. -/
def value? (row : AnswerRow) (column : String) : Option FieldValue :=
  row.lookup column

/-- The text value of a column. -/
def text? (row : AnswerRow) (column : String) : Option String :=
  (row.value? column).bind FieldValue.text?

/-- The integer value of a column. -/
def integer? (row : AnswerRow) (column : String) : Option Int :=
  (row.value? column).bind FieldValue.integer?

/-- The row in JSON, its columns in order. -/
def toJson (row : AnswerRow) : Value :=
  .object (row.map fun (column, value) ↦ (column, value.toJson))

end AnswerRow

/-- The rows of a sheet under its header, short rows filled and long ones cut. -/
def Sheet.answerRows (sheet : Sheet) : List AnswerRow :=
  sheet.rows.map fun row ↦ sheet.header.zip ((row.fit sheet.header.length).map .text)

/-- What a query returns. -/
structure Answer where
  operation : Operation
  columns : List String
  rows : List AnswerRow
  /-- How many rows were returned, inserted, updated or deleted. -/
  affected : Nat
  /-- How long the query took. The clock is left out: every answer of `Query.execute` has zero. -/
  milliseconds : Nat := 0
deriving DecidableEq

namespace Answer

/-- The answer of a select. -/
def ofSheet (sheet : Sheet) : Answer :=
  { operation := .select
    columns := sheet.header
    rows := sheet.answerRows
    affected := sheet.rows.length }

/-- The answer that is one number. -/
def single (operation : Operation) (column : String) (value : Int) (affected : Nat) : Answer :=
  { operation, columns := [column], rows := [[(column, .integer value)]], affected }

/-- The text values of a column, row by row; rows without one are left out. -/
def columnTexts (answer : Answer) (column : String) : List String :=
  answer.rows.filterMap fun row ↦ row.text? column

/-- The id that an insert generated. -/
def generatedId? (answer : Answer) : Option Int :=
  match answer.operation with
  | .insert => answer.rows.head?.bind fun row ↦ row.integer? "id"
  | _ => none

/-- The answer in JSON. -/
def toJson (answer : Answer) : Value :=
  .object [
    ("operation", .string answer.operation.name),
    ("columns", .array (answer.columns.map .string)),
    ("rows", .array (answer.rows.map AnswerRow.toJson)),
    ("rows_affected", .integer answer.affected),
    ("execution_time_ms", .integer answer.milliseconds)]

end Answer

end FlatTables
