import FlatTables.Proofs.NextIds
import FlatTables.Proofs.RefusedQueries
import FlatTables.Proofs.SelectedRows

/-!
# Inserted rows

The id that an insert gives out tells its row from every other one. A select with this id returns
the new row and no other, a delete with it takes the row away and leaves the table from before, and
then the same insert gives the same id again (`Change.insert_undone`). The ids from before may be of
any form: none of them is the printed new one (`Table.toString_notMem_ids`).
-/

set_option autoImplicit false
set_option relaxedAutoImplicit false

namespace FlatTables

/-! ### The rows of the new id -/

namespace Table

variable {table : Table} {payload : Payload} {id : Int}

/-- Before an insert no row has the new id. -/
theorem meets_eq_false_of_mem (hnext : following? table.idNumbers = some id) {row : Row}
    (hrow : row ∈ table.sheet.rows) :
    row.meets table.sheet.header (some ⟨table.idColumn, toString id⟩) = false := by
  have hother : row.valueIn table.sheet.header table.idColumn ≠ toString id := by
    intro hsame
    exact toString_notMem_ids hnext (hsame ▸ List.mem_map_of_mem hrow)
  exact decide_eq_false hother

theorem meets_inserted (hcolumn : table.idColumn ∈ table.sheet.header) :
    (Row.inserted table.sheet.header table.idColumn id payload).meets table.sheet.header
      (some ⟨table.idColumn, toString id⟩) = true :=
  decide_eq_true (Row.valueIn_inserted hcolumn id payload)

section Inserted

variable (hcolumn : table.idColumn ∈ table.sheet.header)
  (hnext : following? table.idNumbers = some id)

include hcolumn hnext

/-- After the insert the new row is the only one with its id. -/
theorem filter_meets_inserted :
    ((table.sheet.rows ++ [Row.inserted table.sheet.header table.idColumn id payload]).filter
        fun row ↦ row.meets table.sheet.header (some ⟨table.idColumn, toString id⟩)) =
      [Row.inserted table.sheet.header table.idColumn id payload] := by
  have hothers : (table.sheet.rows.filter fun row ↦
      row.meets table.sheet.header (some ⟨table.idColumn, toString id⟩)) = [] :=
    List.filter_eq_nil_iff.mpr fun row hrow ↦
      ne_true_of_eq_false (meets_eq_false_of_mem hnext hrow)
  rw [List.filter_append, hothers, List.filter_singleton, meets_inserted hcolumn]
  rfl

/-- The rows without the new id are those from before. -/
theorem filter_not_meets_inserted :
    ((table.sheet.rows ++ [Row.inserted table.sheet.header table.idColumn id payload]).filter
        fun row ↦ !row.meets table.sheet.header (some ⟨table.idColumn, toString id⟩)) =
      table.sheet.rows := by
  have hothers : (table.sheet.rows.filter fun row ↦
      !row.meets table.sheet.header (some ⟨table.idColumn, toString id⟩)) = table.sheet.rows :=
    List.filter_eq_self.mpr fun row hrow ↦
      congrArg not (meets_eq_false_of_mem hnext hrow)
  rw [List.filter_append, hothers, List.filter_singleton, meets_inserted hcolumn]
  simp

end Inserted

end Table

/-- The record of an inserted row. -/
theorem Row.record_inserted (header : List String) (idColumn : String) (id : Int)
    (payload : Payload) :
    (inserted header idColumn id payload).record header = header.map fun column ↦
      (column, .text
        (if column = idColumn then toString id else (payload.get? column).getD "")) := by
  rw [record, inserted, List.map_map]
  nth_rewrite 1 [← List.map_id header]
  rw [List.zip_map']
  rfl

/-! ### Queries with the new id -/

section Asked

variable {config : Config} {name : String} {input : ByteArray} {disk : Disk} {table : Table}
  {payload : Payload} {id : Int}

/-- A select of the new id returns the record of the new row. -/
theorem Query.result_selectAll_inserted
    (hload : ((Table.loadNamed config name).run input disk).result = .ok (table.withRows
      (table.sheet.rows ++ [Row.inserted table.sheet.header table.idColumn id payload])))
    (hcolumn : table.idColumn ∈ table.sheet.header)
    (hnext : following? table.idNumbers = some id) :
    (((selectAll name (some ⟨table.idColumn, toString id⟩)).execute config).run input disk).result =
      .ok {
        operation := .select
        columns := table.sheet.header
        rows := [table.sheet.header.map fun column ↦ (column, .text
          (if column = table.idColumn then toString id else (payload.get? column).getD ""))]
        affected := 1 } := by
  have hcondition : ∀ condition ∈ some (Filter.mk table.idColumn (toString id)),
      condition.column ∈ table.sheet.header := by simpa using hcolumn
  rw [result_selectAll hload hcondition]
  simp only [Table.withRows, List.countP_eq_length_filter,
    Table.filter_meets_inserted hcolumn hnext, List.map_singleton, Row.record_inserted,
    List.length_singleton]

namespace Change

/-- A delete of the new id takes the new row away. -/
theorem run_delete_inserted (hdelimiter : Delimited.Separates config.delimiter)
    (hload : ((Table.loadNamed config name).run input disk).result = .ok (table.withRows
      (table.sheet.rows ++ [Row.inserted table.sheet.header table.idColumn id payload])))
    (hcolumn : table.idColumn ∈ table.sheet.header)
    (hnext : following? table.idNumbers = some id) :
    let itself : Option Filter := some ⟨table.idColumn, toString id⟩
    let deleted := (((delete itself).query name).execute config).run input disk
    deleted.result = .ok (.single .delete "deleted_rows" 1 1) ∧
      ((Table.loadNamed config name).run input deleted.disk).result = .ok table := by
  intro itself deleted
  have hcondition : ∀ condition ∈ itself, condition.column ∈ table.sheet.header := by
    simpa [itself] using hcolumn
  have hdeleted := run_delete hdelimiter input hload hcondition
  simp only [Table.withRows, List.countP_eq_length_filter, itself,
    Table.filter_meets_inserted hcolumn hnext, Table.filter_not_meets_inserted hcolumn hnext,
    List.length_singleton] at hdeleted
  exact hdeleted

/-- A successful insert appends the row of the id that it returns. -/
theorem workedOut_of_insert (hdelimiter : Delimited.Separates config.delimiter)
    (hload : ((Table.loadNamed config name).run input disk).result = .ok table)
    (hinsert : ((((insert payload).query name).execute config).run input disk).result =
      .ok (.single .insert "id" id 1)) :
    ∃ changed, (insert payload).workedOut table = .ok (changed, id) ∧
      ((Table.loadNamed config name).run input
        ((((insert payload).query name).execute config).run input disk).disk).result =
          .ok changed := by
  have hcases := (insert payload).reload_cases hdelimiter input hload []
  dsimp only at hcases
  rw [Procedure.runUnder_nil, hinsert] at hcases
  rcases hcases with ⟨⟨fault, hfault⟩, -⟩ | ⟨changed, number, hworked, hanswer, hafter⟩
  · cases hfault
  · have hnumber : some id = some number :=
      congrArg Answer.generatedId? (Except.ok.inj hanswer)
    obtain rfl := Option.some.inj hnumber
    exact ⟨changed, hworked, hafter⟩

/-- An insert is seen and can be taken back. It succeeds and returns an id. Then a select of the
rows with this id returns the new row alone, which has the id in its column, the values of the
payload in the others, and nothing where the payload has none; a value of the payload for the id
column is not used. A delete of the rows with this id removes one row, and the file loads as the
table from before the insert. The same insert returns the same id again. -/
theorem insert_undone (hdelimiter : Delimited.Separates config.delimiter)
    (hload : ((Table.loadNamed config name).run input disk).result = .ok table)
    (hinsert : ((((insert payload).query name).execute config).run input disk).result =
      .ok (.single .insert "id" id 1)) :
    let itself : Option Filter := some ⟨config.idColumn, toString id⟩
    let inserted := (((insert payload).query name).execute config).run input disk
    let selected := ((Query.selectAll name itself).execute config).run input inserted.disk
    let deleted := (((delete itself).query name).execute config).run input selected.disk
    let repeated := (((insert payload).query name).execute config).run input deleted.disk
    config.idColumn ∈ table.sheet.header ∧
      selected.result = .ok {
        operation := .select
        columns := table.sheet.header
        rows := [table.sheet.header.map fun column ↦ (column, .text
          (if column = config.idColumn then toString id else (payload.get? column).getD ""))]
        affected := 1 } ∧
      deleted.result = .ok (.single .delete "deleted_rows" 1 1) ∧
      ((Table.loadNamed config name).run input deleted.disk).result = .ok table ∧
      repeated.result = .ok (.single .insert "id" id 1) := by
  obtain ⟨changed, hworked, hinserted⟩ := workedOut_of_insert hdelimiter hload hinsert
  have hkept := (Table.keptUnder_of_loadNamed hload).1
  obtain ⟨hcolumn, hnext, rfl⟩ := Table.changed_of_withInserted hkept.sound.header_nodup hworked
  rw [← hkept.idColumn_eq]
  intro itself inserted selected deleted repeated
  have hdisk : selected.disk = inserted.disk := (Query.yields_execute rfl).2
  have hselected := Query.result_selectAll_inserted hinserted hcolumn hnext
  rw [← hdisk] at hinserted
  obtain ⟨hdeleted, hback⟩ := run_delete_inserted hdelimiter hinserted hcolumn hnext
  obtain ⟨hrepeated, -⟩ := run_query_of_workedOut hdelimiter input hback hworked
  exact ⟨hcolumn, hselected, hdeleted, hback, hrepeated⟩

/-- The id that the payload has is not used, and no row is taken for the new one, however its id is
written. -/
theorem insert_undone_oddIds :
    let eve : Change := .insert (.ofList [("id", "+6"), ("name", "Eve")])
    let eighth : Option Filter := some ⟨"id", "8"⟩
    let inserted := ((eve.query "t").execute {}).run .empty oddIdsDisk
    let selected := ((Query.selectAll "t" eighth).execute {}).run .empty inserted.disk
    let deleted := (((delete eighth).query "t").execute {}).run .empty selected.disk
    let repeated := ((eve.query "t").execute {}).run .empty deleted.disk
    inserted.result = .ok (.single .insert "id" 8 1) ∧
      selected.result = .ok
        { operation := .select, columns := ["id", "name"],
          rows := [[("id", .text "8"), ("name", .text "Eve")]], affected := 1 } ∧
      deleted.result = .ok (.single .delete "deleted_rows" 1 1) ∧
      ((Table.loadNamed {} "t").run .empty deleted.disk).result = .ok oddIdsTable ∧
      repeated.result = .ok (.single .insert "id" 8 1) := by
  intro eve eighth inserted selected deleted repeated
  have hseparates : Delimited.Separates ({} : Config).delimiter := by decide
  have hinsert : inserted.result = .ok (.single .insert "id" 8 1) := rfl
  obtain ⟨-, hselected, hdeleted, hback, hrepeated⟩ :=
    insert_undone hseparates load_oddIdsDisk hinsert
  exact ⟨hinsert, hselected, hdeleted, hback, hrepeated⟩

end Change

end Asked

end FlatTables
