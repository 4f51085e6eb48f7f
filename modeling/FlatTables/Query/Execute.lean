import FlatTables.Query.Answer
import FlatTables.Query.Basic
import FlatTables.Sheet.Reported
import FlatTables.Table

/-!
# Carrying out a query

A query loads its tables anew and keeps nothing. A select joins, then filters, then orders, then
projects, and each of these stages finds its columns in the header that the one before leaves.
The other operations change the table and write its file anew. The first check that fails ends the
query and is its answer.
-/

set_option autoImplicit false
set_option relaxedAutoImplicit false

namespace FlatTables

namespace Query

/-- The rest of a procedure, unless there is a fault already. -/
def onSuccess {α β : Type} (step : Procedure (Except Fault α))
    (following : α → Procedure (Except Fault β)) : Procedure (Except Fault β) := do
  match ← step with
  | .error fault => return .error fault
  | .ok value => following value

/-- The table that a query is about. -/
def target (query : Query) : Except Fault String :=
  match query.table with
  | some table => .ok table
  | none => .error (.notReady query.operation .table)

/-- The values that a query assigns. -/
def assigned (query : Query) : Except Fault Payload :=
  match query.payload with
  | some payload => .ok payload
  | none => .error (.notReady query.operation .payload)

/-- The rows that a select starts with: those of its table, or of the join with another one. -/
def source (config : Config) (table : Table) : Option Join → Procedure (Except Fault Sheet)
  | none => return .ok table.sheet
  | some join =>
    onSuccess (Table.loadNamed config join.table) fun other ↦
      table.sheet.joinReported other.sheet join.column join.otherColumn

/-- The rows that a filter keeps, if there is one. -/
def restrict (filter : Option Filter) (sheet : Sheet) : Procedure (Except Fault Sheet) :=
  match filter with
  | none => return .ok sheet
  | some condition => sheet.filterReported condition

/-- The rows in the order asked for, under the columns asked for. -/
def arrange (query : Query) (sheet : Sheet) : Except UnknownColumn Sheet := do
  let sorted ← match query.sort with
    | none => pure sheet
    | some order => sheet.sort order
  sorted.project query.projection

/-- Carries out a select. -/
def executeSelect (query : Query) (config : Config) : Procedure (Except Fault Answer) :=
  onSuccess (pure query.target) fun name ↦
  onSuccess (Table.loadNamed config name) fun table ↦
  onSuccess (source config table query.join) fun rows ↦
  onSuccess (restrict query.filter rows) fun kept ↦
  onSuccess (pure ((query.arrange kept).mapError .ofUnknownColumn)) fun projected ↦ do
    Procedure.log (.selected projected.name projected.rows.length)
    return .ok (.ofSheet projected)

/-- Carries out an insert. -/
def executeInsert (query : Query) (config : Config) : Procedure (Except Fault Answer) :=
  onSuccess (pure query.target) fun name ↦
  onSuccess (pure query.assigned) fun payload ↦
  onSuccess (Table.loadNamed config name) fun table ↦ do
    let (_, id) ← table.insert payload
    return id.map fun id ↦ .single .insert "id" id 1

/-- Carries out an update. -/
def executeUpdate (query : Query) (config : Config) : Procedure (Except Fault Answer) :=
  onSuccess (pure query.target) fun name ↦
  onSuccess (pure query.assigned) fun payload ↦
  onSuccess (Table.loadNamed config name) fun table ↦ do
    let (_, count) ← table.update payload query.filter
    return count.map fun (count : Nat) ↦ .single .update "updated_rows" count count

/-- Carries out a delete. -/
def executeDelete (query : Query) (config : Config) : Procedure (Except Fault Answer) :=
  onSuccess (pure query.target) fun name ↦
  onSuccess (Table.loadNamed config name) fun table ↦ do
    let (_, count) ← table.delete query.filter
    return count.map fun (count : Nat) ↦ .single .delete "deleted_rows" count count

/-- Carries out a query. -/
def execute (query : Query) (config : Config) : Procedure (Except Fault Answer) := do
  Procedure.log (.executing query.operation query.table)
  match query.operation with
  | .select => query.executeSelect config
  | .insert => query.executeInsert config
  | .update => query.executeUpdate config
  | .delete => query.executeDelete config

end Query

end FlatTables
