import FlatTables.Config
import FlatTables.Fault
import FlatTables.Procedure
import FlatTables.Query.Payload
import FlatTables.Sheet.Basic
import FlatTables.Text.Delimited

/-!
# Tables

A table is a sheet with the file it is kept in. `Table.ofText` makes one from the text of a file:
the first record is the header, which may not repeat a name, and every other record is a row.

A change comes in two parts. `withInserted`, `withUpdated` and `withDeleted` work out the changed
table, or say which check failed; they touch no file. `insert`, `update` and `delete` then write
the whole file anew (`persist`), the last two only if a row matched. The table they return is the
changed one even if the file could not be written.
-/

set_option autoImplicit false
set_option relaxedAutoImplicit false

namespace FlatTables

/-- A sheet and the file it is kept in. -/
structure Table where
  path : String
  delimiter : Char
  /-- The column that inserts number. -/
  idColumn : String
  sheet : Sheet
deriving DecidableEq

namespace Table

/-! ### Reading -/

/-- The first name that stands a second time in the list, at the place where it does. `seen` are
the names before the list. -/
def firstRepeated? (seen : List String) : List String → Option String
  | [] => none
  | name :: names =>
    if seen.contains name then some name else firstRepeated? (name :: seen) names

/-- What is wrong with the number of fields of a record under a header of a width. -/
def rowFlaw? (arity : Arity) (width : Nat) (record : Delimited.Record) : Option Flaw :=
  let count := record.fields.length
  if count = width then none
  else if arity = .strict ∨ width < count then some (.fieldCount width count)
  else none

/-- The rows of a header of a width: every record filled up with empty fields, unless one of them
has a wrong number of fields. -/
def readRows (path : String) (arity : Arity) (width : Nat) :
    List Delimited.Record → Except Fault (List Row)
  | [] => .ok []
  | record :: records =>
    match rowFlaw? arity width record with
    | some flaw => .error (.malformed path record.line flaw)
    | none => (readRows path arity width records).map (Row.fit record.fields width :: ·)

/-- The warnings for rows that are filled up, as far as the rows are right. -/
def paddings (path : String) (arity : Arity) (width : Nat) (records : List Delimited.Record) :
    List Event :=
  let accepted := records.takeWhile fun record ↦ (rowFlaw? arity width record).isNone
  (accepted.filter fun record ↦ record.fields.length < width).map fun record ↦
    .padded path record.line record.fields.length width

/-- The name of the table in a file: the name of the file without its extension. -/
def nameOf (path : String) : String :=
  (Path.stem? path).getD path

/-- The table of a header and the records below it, with what is reported on the way. -/
def ofRecords (config : Config) (path : String) (header : List String)
    (records : List Delimited.Record) : List Event × Except Fault Table :=
  match firstRepeated? [] header with
  | some column => ([], .error (.malformed path 1 (.duplicateColumn column)))
  | none =>
    let width := header.length
    let warnings := paddings path config.arity width records
    match readRows path config.arity width records with
    | .error fault => (warnings, .error fault)
    | .ok rows =>
      let name := nameOf path
      (warnings ++ [.loaded name path width rows.length],
        .ok ⟨path, config.delimiter, config.idColumn, ⟨name, header, rows⟩⟩)

/-- The table in the text of a file, with what is reported on the way. -/
def ofText (config : Config) (path text : String) : List Event × Except Fault Table :=
  match Delimited.decode config.delimiter text with
  | .error unterminated => ([], .error (.malformed path unterminated.line .unterminatedQuote))
  | .ok [] => ([], .error (.malformed path 1 .missingHeader))
  | .ok (first :: records) => ofRecords config path first.fields records

/-- Loads the table in a file. -/
def load (config : Config) (path : String) : Procedure (Except Fault Table) := do
  match ← Procedure.textOf path with
  | .error .notFound => return .error (.tableNotFound path)
  | .error failure => return .error (.file failure)
  | .ok text =>
    let (events, table) := ofText config path text
    Procedure.logAll events
    return table

/-- Loads the table of a name. -/
def loadNamed (config : Config) (name : String) : Procedure (Except Fault Table) :=
  load config (config.tablePath name)

/-! ### Writing -/

/-- The text of the file: the header and every row. -/
def text (table : Table) : String :=
  Delimited.encode table.delimiter (table.sheet.header :: table.sheet.rows)

/-- Writes the whole file anew. -/
def persist (table : Table) : Procedure (Except Fault Unit) := do
  match ← Procedure.store table.path table.text with
  | .error failure => return .error (.file failure)
  | .ok () =>
    Procedure.log (.persisted table.sheet.name table.path table.sheet.rows.length)
    return .ok ()

/-! ### Changes -/

/-- The position of a column. -/
def columnIndex (table : Table) (column : String) : Except Fault Nat :=
  (table.sheet.columnIndex column).mapError .ofUnknownColumn

/-- The table with other rows. -/
def withRows (table : Table) (rows : List Row) : Table :=
  { table with sheet := { table.sheet with rows } }

/-- The greatest numeral of a list. -/
def greatest? (numerals : List Numeral) : Option Numeral :=
  numerals.foldl
    (fun best numeral ↦
      match best with
      | none => some numeral
      | some best => if best.compare numeral == .gt then some best else some numeral)
    none

/-- The numerals among the ids. -/
def idNumerals (table : Table) (idIndex : Nat) : List Numeral :=
  table.sheet.rows.filterMap fun row ↦ row[idIndex]?.bind Numeral.parse?

/-- The id of the next row: one more than the greatest numeral among the ids, or one if there is
none. It has to be a 64-bit integer, and so does the greatest. -/
def nextId? (table : Table) (idIndex : Nat) : Option Int :=
  match greatest? (table.idNumerals idIndex) with
  | none => some 1
  | some greatest => greatest.toInt64?.bind fun id ↦ inInt64? (id + 1)

/-- The row that an insert appends: the id in its column, the payload in the others, and nothing
where the payload has nothing. -/
def newRow (header : List String) (idIndex : Nat) (id : Int) (payload : Payload) : Row :=
  header.mapIdx fun index column ↦
    if index = idIndex then toString id else (payload.get? column).getD ""

/-- The table with a new row, and the id of that row. -/
def withInserted (table : Table) (payload : Payload) : Except Fault (Table × Int) := do
  let idIndex ← table.columnIndex table.idColumn
  let _ ← payload.columns.mapM table.columnIndex
  match table.nextId? idIndex with
  | none => .error (.malformed table.path 0 .noNextId)
  | some id =>
    let row := newRow table.sheet.header idIndex id payload
    return (table.withRows (table.sheet.rows ++ [row]), id)

/-- Whether a row is selected by the filter whose column is at the given position. Without a
filter every row is. -/
def selects (filter : Option (Nat × String)) (row : Row) : Bool :=
  match filter with
  | none => true
  | some (index, value) => row.field index == value

/-- A filter with the position of its column. -/
def resolve (table : Table) : Option Filter → Except Fault (Option (Nat × String))
  | none => .ok none
  | some filter => do return some (← table.columnIndex filter.column, filter.value)

/-- A row after values have been put at positions, one after the other. -/
def overwrite (assignments : List (Nat × String)) (row : Row) : Row :=
  assignments.foldl (fun row (index, value) ↦ row.set index value) row

/-- The table with values put into the selected rows, and the number of those rows. -/
def withUpdated (table : Table) (payload : Payload) (filter : Option Filter) :
    Except Fault (Table × Nat) := do
  let assignments ← payload.entries.mapM fun (column, value) ↦ do
    return (← table.columnIndex column, value)
  let selected := selects (← table.resolve filter)
  let rows := table.sheet.rows.map fun row ↦
    if selected row then overwrite assignments row else row
  return (table.withRows rows, table.sheet.rows.countP selected)

/-- The table without the selected rows, and the number of those rows. -/
def withDeleted (table : Table) (filter : Option Filter) : Except Fault (Table × Nat) := do
  let selected := selects (← table.resolve filter)
  let rows := table.sheet.rows.filter fun row ↦ !selected row
  return (table.withRows rows, table.sheet.rows.countP selected)

/-- Appends a row and writes the file. Gives the table and the new id. -/
def insert (table : Table) (payload : Payload) : Procedure (Table × Except Fault Int) := do
  match table.withInserted payload with
  | .error fault => return (table, .error fault)
  | .ok (changed, id) =>
    match ← changed.persist with
    | .error fault => return (changed, .error fault)
    | .ok () =>
      Procedure.log (.inserted id table.sheet.name)
      return (changed, .ok id)

/-- Writes the file of a changed table if a row was touched, and reports how many were. -/
def settle (changed : Table) (count : Nat) (event : Event) :
    Procedure (Table × Except Fault Nat) := do
  let written ← if 0 < count then changed.persist else pure (.ok ())
  match written with
  | .error fault => return (changed, .error fault)
  | .ok () =>
    Procedure.log event
    return (changed, .ok count)

/-- Puts values into the selected rows and writes the file. Gives the table and the number of
rows. -/
def update (table : Table) (payload : Payload) (filter : Option Filter) :
    Procedure (Table × Except Fault Nat) :=
  match table.withUpdated payload filter with
  | .error fault => return (table, .error fault)
  | .ok (changed, count) => changed.settle count (.updated count table.sheet.name)

/-- Removes the selected rows and writes the file. Gives the table and the number of rows. -/
def delete (table : Table) (filter : Option Filter) : Procedure (Table × Except Fault Nat) :=
  match table.withDeleted filter with
  | .error fault => return (table, .error fault)
  | .ok (changed, count) => changed.settle count (.deleted count table.sheet.name)

end Table

end FlatTables
