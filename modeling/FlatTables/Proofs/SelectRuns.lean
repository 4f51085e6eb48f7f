import FlatTables.Proofs.Changes
import FlatTables.Query.Execute

/-!
# Runs of selects

A select reads files and reports, and writes none, so its result is worked out from the tables that
its files hold (`Query.yields_execute`). `Query.selected` is this calculation: the stages one after
another, where the first one that fails ends it.
-/

set_option autoImplicit false
set_option relaxedAutoImplicit false

namespace FlatTables

/-- The table that the file of a name holds. -/
def Table.stored (config : Config) (disk : Disk) (name : String) : Except Fault Table :=
  (ofContent config (config.tablePath name) (disk.read (config.tablePath name))).2

namespace Query

/-! ### The stages of a select -/

/-- The rows of the table, or those of its join with another one that a file holds. -/
def joined (config : Config) (disk : Disk) (table : Table) : Option Join → Except Fault Sheet
  | none => .ok table.sheet
  | some join => do
    let other ← Table.stored config disk join.table
    (table.sheet.join other.sheet join.column join.otherColumn).mapError .ofUnknownColumn

/-- The rows that a filter keeps, if there is one. -/
def kept (sheet : Sheet) : Option Filter → Except Fault Sheet
  | none => .ok sheet
  | some condition => (sheet.filter condition).mapError .ofUnknownColumn

/-- The answer of a select on the tables that the files hold. -/
def selected (query : Query) (config : Config) (disk : Disk) : Except Fault Answer := do
  let name ← query.target
  let table ← Table.stored config disk name
  let rows ← joined config disk table query.join
  let restricted ← kept rows query.filter
  let projected ← (query.arrange restricted).mapError .ofUnknownColumn
  return .ofSheet projected

/-- A select whose stages all succeed is answered by the last of them. -/
theorem selected_eq_ok {query : Query} {config : Config} {disk : Disk} {name : String}
    {table : Table} {rows restricted projected : Sheet} (htarget : query.table = some name)
    (hstored : Table.stored config disk name = .ok table)
    (hjoined : joined config disk table query.join = .ok rows)
    (hkept : kept rows query.filter = .ok restricted)
    (harrange : query.arrange restricted = .ok projected) :
    query.selected config disk = .ok (.ofSheet projected) := by
  have hname : query.target = .ok name := by rw [target, htarget]
  simp only [selected, bind, Except.bind, hname, hstored, hjoined, hkept, harrange]
  rfl

end Query

/-! ### Runs that read only -/

/-- The procedure ends with the result and leaves the disk as it is. -/
def Procedure.Yields {α : Type} (procedure : Procedure α) (input : ByteArray) (disk : Disk)
    (result : α) : Prop :=
  (procedure.run input disk).result = result ∧ (procedure.run input disk).disk = disk

namespace Query

variable {α β : Type} {config : Config} {input : ByteArray} {disk : Disk}

theorem yields_pure (result : α) : (pure result : Procedure α).Yields input disk result :=
  ⟨rfl, rfl⟩

theorem yields_onSuccess {step : Procedure (Except Fault α)} {found : Except Fault α}
    {following : α → Procedure (Except Fault β)} {rest : α → Except Fault β}
    (hstep : step.Yields input disk found)
    (hfollowing : ∀ value, (following value).Yields input disk (rest value)) :
    (onSuccess step following).Yields input disk (found >>= rest) := by
  obtain ⟨hresult, hdisk⟩ := hstep
  rw [onSuccess, Procedure.bind_eq_andThen, Procedure.Yields, Procedure.run_andThen]
  simp only [hresult, hdisk]
  cases found with
  | error fault => exact ⟨rfl, rfl⟩
  | ok value => exact hfollowing value

theorem yields_loadNamed (name : String) :
    (Table.loadNamed config name).Yields input disk (Table.stored config disk name) := by
  have hrun := Table.run_load config (config.tablePath name) input disk
  rw [Procedure.Yields, Table.loadNamed, hrun]
  exact ⟨rfl, rfl⟩

theorem yields_source (table : Table) (join : Option Join) :
    (source config table join).Yields input disk (joined config disk table join) := by
  cases join with
  | none => exact yields_pure _
  | some join =>
    refine yields_onSuccess (yields_loadNamed join.table) fun other ↦ ?_
    rw [Sheet.joinReported]
    cases table.sheet.join other.sheet join.column join.otherColumn with
    | error unknown => exact yields_pure _
    | ok sheet => exact ⟨rfl, rfl⟩

theorem yields_restrict (filter : Option Filter) (sheet : Sheet) :
    (restrict filter sheet).Yields input disk (kept sheet filter) := by
  cases filter with
  | none => exact yields_pure _
  | some condition =>
    rw [restrict, Sheet.filterReported, kept]
    cases sheet.filter condition with
    | error unknown => exact yields_pure _
    | ok rows => exact ⟨rfl, rfl⟩

/-- A select ends with what is worked out from the files, and leaves them as they are. -/
theorem yields_execute {query : Query} (hselect : query.operation = .select) :
    (query.execute config).Yields input disk (query.selected config disk) := by
  have hstages : (query.executeSelect config).Yields input disk (query.selected config disk) := by
    refine yields_onSuccess (yields_pure _) fun name ↦ ?_
    refine yields_onSuccess (yields_loadNamed name) fun table ↦ ?_
    refine yields_onSuccess (yields_source table query.join) fun rows ↦ ?_
    refine yields_onSuccess (yields_restrict query.filter rows) fun restricted ↦ ?_
    exact yields_onSuccess (yields_pure _) fun projected ↦ ⟨rfl, rfl⟩
  rw [Change.execute_of_select hselect]
  exact hstages

end Query

end FlatTables
