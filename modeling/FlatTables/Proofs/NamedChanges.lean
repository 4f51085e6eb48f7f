import FlatTables.Proofs.NamedColumns
import FlatTables.Proofs.OpenTables
import FlatTables.Proofs.Payloads

/-!
# Changes by names

An update writes values at positions, one after the other, and a filter compares the field at a
position. In names, an update gives a row the value of the payload in every column that the payload
has and leaves the others (`Row.assigned`), and a filter selects the rows that meet it. This is so
for columns that the header has, under a header without repeated names (`Table.withUpdated_of_mem`,
`Table.withDeleted_of_mem`).

A query for a change that can be worked out is answered with its number, and the file loads as the
changed table afterwards (`Change.run_query_of_workedOut`). So the effect of a delete or an update
that is asked for is told in names as well (`Change.run_delete`, `Change.run_update`).
-/

set_option autoImplicit false
set_option relaxedAutoImplicit false

namespace FlatTables

/-! ### Values put into rows -/

namespace Row

/-- The row with the values of a payload in its columns. -/
def assigned (row : Row) (header : List String) (payload : Payload) : Row :=
  header.map fun column ↦ (payload.get? column).getD (row.valueIn header column)

/-- A value put at the position of a column is the value in this column, and no other changes. -/
theorem valueIn_set {header : List String} {column : String} (hcolumn : column ∈ header)
    (other value : String) :
    ∀ {row : Row}, row.length = header.length →
      valueIn (row.set (header.idxOf column) value) header other =
        if other = column then value else row.valueIn header other := by
  induction header with
  | nil => exact absurd hcolumn List.not_mem_nil
  | cons name header ih =>
    intro row hlength
    cases row with
    | nil => simp at hlength
    | cons first row =>
      have hrest : row.length = header.length := Nat.succ.inj hlength
      by_cases hname : column = name
      · subst column
        rw [List.idxOf_cons_self, List.set_cons_zero, valueIn_cons, valueIn_cons]
        by_cases hother : other = name
        · rw [if_pos hother, if_pos hother]
        · rw [if_neg hother, if_neg hother, if_neg hother]
      · have hmem : column ∈ header := (List.mem_cons.mp hcolumn).resolve_left hname
        rw [List.idxOf_cons_ne header (Ne.symm hname), List.set_cons_succ, valueIn_cons,
          valueIn_cons, ih hmem hrest]
        by_cases hother : other = name
        · have hne : other ≠ column := fun h ↦ hname (h.symm.trans hother)
          rw [if_pos hother, if_neg hne, if_pos hother]
        · rw [if_neg hother, if_neg hother]

end Row

namespace Table

variable {table : Table} {payload : Payload} {filter : Option Filter}

/-- Values put one after the other at the positions of different columns are the values there. -/
theorem overwrite_map {header : List String} (hnodup : header.Nodup)
    (entries : List (String × String)) :
    ∀ {row : Row}, (entries.map Prod.fst).Nodup → (∀ entry ∈ entries, entry.1 ∈ header) →
      row.length = header.length →
        overwrite (entries.map fun entry ↦ (header.idxOf entry.1, entry.2)) row =
          header.map fun column ↦ (entries.lookup column).getD (row.valueIn header column) := by
  induction entries with
  | nil =>
    intro row _ _ hlength
    exact (Row.map_valueIn hnodup hlength).symm
  | cons entry entries ih =>
    intro row hdifferent hcolumns hlength
    obtain ⟨name, value⟩ := entry
    obtain ⟨hnew, hrest⟩ := List.nodup_cons.mp hdifferent
    have hname := hcolumns (name, value) List.mem_cons_self
    have hset : (row.set (header.idxOf name) value).length = header.length := by
      rw [List.length_set, hlength]
    calc overwrite (((name, value) :: entries).map fun entry ↦ (header.idxOf entry.1, entry.2)) row
        = overwrite (entries.map fun entry ↦ (header.idxOf entry.1, entry.2))
            (row.set (header.idxOf name) value) := rfl
      _ = header.map fun column ↦ (entries.lookup column).getD
            (Row.valueIn (row.set (header.idxOf name) value) header column) :=
          ih hrest (fun other hother ↦ hcolumns other (List.mem_cons_of_mem _ hother)) hset
      _ = header.map fun column ↦ (((name, value) :: entries).lookup column).getD
            (row.valueIn header column) := by
          refine List.map_congr_left fun column _ ↦ ?_
          rw [Row.valueIn_set hname column value hlength, List.lookup_cons]
          by_cases hcolumn : column = name
          · have hnone : entries.lookup name = none := by
              refine List.lookup_eq_none_iff.mpr fun entry hentry ↦ ?_
              have hne : name ≠ entry.1 := fun h ↦ hnew (List.mem_map.mpr ⟨entry, hentry, h.symm⟩)
              simpa using hne
            rw [hcolumn, hnone, if_pos rfl]
            simp
          · rw [if_neg hcolumn, beq_false_of_ne hcolumn]

theorem assignments_of_mem (hpayload : ∀ column ∈ payload.columns, column ∈ table.sheet.header) :
    table.assignments payload =
      .ok (payload.entries.map fun entry ↦ (table.sheet.header.idxOf entry.1, entry.2)) := by
  refine mapM_eq_pure_map payload.entries fun entry hentry ↦ ?_
  have hindex : table.columnIndex entry.1 = .ok (table.sheet.header.idxOf entry.1) :=
    columnIndex_eq_ok_iff.mpr ⟨hpayload _ (List.mem_map_of_mem hentry), rfl⟩
  dsimp only
  rw [hindex]
  rfl

/-- A filter on a column of the header selects the rows that meet it. -/
theorem exists_resolve_of_mem
    (hfilter : ∀ condition ∈ filter, condition.column ∈ table.sheet.header) :
    ∃ resolved, table.resolve filter = .ok resolved ∧
      selects resolved = fun row ↦ row.meets table.sheet.header filter := by
  cases filter with
  | none => exact ⟨none, rfl, rfl⟩
  | some condition =>
    have hcolumn := hfilter condition rfl
    have hindex : table.columnIndex condition.column =
        .ok (table.sheet.header.idxOf condition.column) := columnIndex_eq_ok_iff.mpr ⟨hcolumn, rfl⟩
    refine ⟨some (table.sheet.header.idxOf condition.column, condition.value), ?_, ?_⟩
    · rw [resolve, hindex]
      rfl
    · funext row
      rw [selects, Row.field_idxOf hcolumn]
      rfl

theorem withDeleted_of_mem (hfilter : ∀ condition ∈ filter, condition.column ∈ table.sheet.header) :
    table.withDeleted filter = .ok
      (table.withRows (table.sheet.rows.filter fun row ↦ !row.meets table.sheet.header filter),
        table.sheet.rows.countP fun row ↦ row.meets table.sheet.header filter) := by
  obtain ⟨resolved, hresolve, hselects⟩ := exists_resolve_of_mem hfilter
  have hdeleted : table.withDeleted filter = .ok
      (table.withRows (table.sheet.rows.filter fun row ↦ !selects resolved row),
        table.sheet.rows.countP (selects resolved)) := by
    rw [withDeleted_eq, hresolve]
    rfl
  rw [hdeleted, hselects]

theorem withUpdated_of_mem (hsound : table.Sound)
    (hpayload : ∀ column ∈ payload.columns, column ∈ table.sheet.header)
    (hfilter : ∀ condition ∈ filter, condition.column ∈ table.sheet.header) :
    table.withUpdated payload filter = .ok
      (table.withRows (table.sheet.rows.map fun row ↦
          if row.meets table.sheet.header filter then row.assigned table.sheet.header payload
          else row),
        table.sheet.rows.countP fun row ↦ row.meets table.sheet.header filter) := by
  obtain ⟨resolved, hresolve, hselects⟩ := exists_resolve_of_mem hfilter
  let assignments := payload.entries.map fun entry ↦ (table.sheet.header.idxOf entry.1, entry.2)
  have hassignments : table.assignments payload = .ok assignments := assignments_of_mem hpayload
  have hdifferent : (payload.entries.map Prod.fst).Nodup := payload.nodup_columns
  have hcolumns : ∀ entry ∈ payload.entries, entry.1 ∈ table.sheet.header :=
    fun entry hentry ↦ hpayload _ (List.mem_map_of_mem hentry)
  have hupdated : table.withUpdated payload filter = .ok
      (table.withRows (table.sheet.rows.map fun row ↦
          if selects resolved row then overwrite assignments row else row),
        table.sheet.rows.countP (selects resolved)) := by
    rw [withUpdated_eq, hassignments, hresolve]
    rfl
  have hrows : (table.sheet.rows.map fun row ↦
        if selects resolved row then overwrite assignments row else row) =
      table.sheet.rows.map fun row ↦
        if row.meets table.sheet.header filter then row.assigned table.sheet.header payload
        else row := by
    refine List.map_congr_left fun row hrow ↦ ?_
    rw [hselects, overwrite_map hsound.header_nodup payload.entries hdifferent hcolumns
      (hsound.rows_length row hrow)]
    rfl
  rw [hupdated, hrows, hselects]

end Table

/-! ### Queries for changes that can be worked out -/

/-- A change that can be worked out is made, whether its file has to be written or not. -/
theorem Change.result_on {config : Config} {disk : Disk} {table changed : Table} {number : Int}
    (hreflects : table.Reflects config disk) (input : ByteArray) {change : Change}
    (hworked : change.workedOut table = .ok (changed, number)) :
    ((change.on table).run input disk).result = (changed, .ok number) := by
  rw [Change.on_eq, hworked]
  dsimp only
  cases hwrites : change.writes number with
  | false => rfl
  | true =>
    obtain ⟨rows, rfl, -⟩ := Change.workedOut_eq_ok hworked
    obtain ⟨content, hread⟩ := Table.exists_content_of_ofContent hreflects
    obtain ⟨next, hwrite⟩ := Disk.write_of_read hread (table.withRows rows).text.toUTF8
    have hpersist : (table.withRows rows).persist.run input disk = _ :=
      Table.run_persist input hwrite
    rw [if_pos rfl, Procedure.run_andThen, hpersist]
    rfl

/-- The query for a change that can be worked out is answered with its number, and the file loads as
the changed table afterwards. -/
theorem Change.run_query_of_workedOut {config : Config} {disk : Disk} {name : String}
    {table changed : Table} {number : Int} (hdelimiter : Delimited.Separates config.delimiter)
    (input : ByteArray) (hload : ((Table.loadNamed config name).run input disk).result = .ok table)
    {change : Change} (hworked : change.workedOut table = .ok (changed, number)) :
    let outcome := ((change.query name).execute config).run input disk
    outcome.result = .ok (change.answer number) ∧
      ((Table.loadNamed config name).run input outcome.disk).result = .ok changed := by
  intro outcome
  obtain ⟨-, hpath⟩ := Table.keptUnder_of_loadNamed hload
  rw [Table.loadNamed, Table.run_load] at hload
  have hreflects : table.Reflects config disk := by rwa [Table.Reflects, hpath]
  obtain ⟨hresult, hdisk⟩ := Change.run_execute_query hpath hreflects change input
  obtain ⟨hnext, hsame⟩ := Table.reflects_on hdelimiter hreflects change input
  rw [Change.result_on hreflects input hworked] at hresult hnext hsame
  rw [Table.Reflects, hsame, hpath] at hnext
  refine ⟨hresult, ?_⟩
  rw [Table.loadNamed, Table.run_load, hdisk]
  exact hnext

section Asked

variable {config : Config} {disk : Disk} {name : String} {table : Table} {filter : Option Filter}

/-- A delete takes the rows that meet its filter out of the file, and reports how many they are. -/
theorem Change.run_delete (hdelimiter : Delimited.Separates config.delimiter) (input : ByteArray)
    (hload : ((Table.loadNamed config name).run input disk).result = .ok table)
    (hfilter : ∀ condition ∈ filter, condition.column ∈ table.sheet.header) :
    let outcome := (((Change.delete filter).query name).execute config).run input disk
    let count := table.sheet.rows.countP fun row ↦ row.meets table.sheet.header filter
    outcome.result = .ok (.single .delete "deleted_rows" count count) ∧
      ((Table.loadNamed config name).run input outcome.disk).result =
        .ok (table.withRows
          (table.sheet.rows.filter fun row ↦ !row.meets table.sheet.header filter)) := by
  intro outcome count
  have hworked : (Change.delete filter).workedOut table = .ok
      (table.withRows (table.sheet.rows.filter fun row ↦ !row.meets table.sheet.header filter),
        count) := by
    rw [Change.workedOut, Table.withDeleted_of_mem hfilter]
    rfl
  exact Change.run_query_of_workedOut hdelimiter input hload hworked

/-- An update puts the values of its payload into the rows that meet its filter, and reports how
many they are. -/
theorem Change.run_update {payload : Payload} (hdelimiter : Delimited.Separates config.delimiter)
    (input : ByteArray) (hload : ((Table.loadNamed config name).run input disk).result = .ok table)
    (hpayload : ∀ column ∈ payload.columns, column ∈ table.sheet.header)
    (hfilter : ∀ condition ∈ filter, condition.column ∈ table.sheet.header) :
    let outcome := (((Change.update payload filter).query name).execute config).run input disk
    let count := table.sheet.rows.countP fun row ↦ row.meets table.sheet.header filter
    outcome.result = .ok (.single .update "updated_rows" count count) ∧
      ((Table.loadNamed config name).run input outcome.disk).result =
        .ok (table.withRows (table.sheet.rows.map fun row ↦
          if row.meets table.sheet.header filter then row.assigned table.sheet.header payload
          else row)) := by
  intro outcome count
  have hsound := (Table.keptUnder_of_loadNamed hload).1.sound
  have hworked : (Change.update payload filter).workedOut table = .ok
      (table.withRows (table.sheet.rows.map fun row ↦
        if row.meets table.sheet.header filter then row.assigned table.sheet.header payload
        else row), count) := by
    rw [Change.workedOut, Table.withUpdated_of_mem hsound hpayload hfilter]
    rfl
  exact Change.run_query_of_workedOut hdelimiter input hload hworked

end Asked

end FlatTables
