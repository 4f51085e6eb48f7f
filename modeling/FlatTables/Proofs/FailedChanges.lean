import FlatTables.Proofs.Changes
import FlatTables.Proofs.FaultyRuns
import FlatTables.Proofs.Results

/-!
# Changes that fail

A change that fails leaves the file as it was. Whether it also leaves the table as it was depends
on where it failed (`Change.failed_on`). The checks come before the rows are touched, so the table
is the same if one of them fails. The write comes after, and if it fails the table keeps the changed
rows. An insert that is tried again then adds its row a second time (`Change.insert_lostFile`), and
a delete finds nothing to remove. Only an update with values that were there already cannot be told
from one that was never made.
-/

set_option autoImplicit false
set_option relaxedAutoImplicit false

namespace FlatTables

/-! ### Checks that fail -/

section Checks

variable {table : Table} {fault : Fault}

theorem Table.eq_unknownColumn_of_columnIndex {column : String}
    (hcolumn : table.columnIndex column = .error fault) :
    fault = .unknownColumn column table.sheet.name := by
  unfold columnIndex Sheet.columnIndex at hcolumn
  split at hcolumn <;> cases hcolumn
  rfl

theorem Table.exists_unknownColumn_of_resolve {filter : Option Filter}
    (hresolve : table.resolve filter = .error fault) :
    ∃ column, fault = .unknownColumn column table.sheet.name := by
  cases filter with
  | none => cases hresolve
  | some filter =>
    rcases of_bind_eq_error hresolve with hcolumn | ⟨index, -, hdone⟩
    · exact ⟨filter.column, eq_unknownColumn_of_columnIndex hcolumn⟩
    · cases hdone

theorem Table.fault_of_withInserted {payload : Payload}
    (hinserted : table.withInserted payload = .error fault) :
    (∃ column, fault = .unknownColumn column table.sheet.name) ∨
      fault = .malformed table.path 0 .noNextId := by
  rcases of_bind_eq_error hinserted with hcolumn | ⟨idIndex, -, hrest⟩
  · exact Or.inl ⟨table.idColumn, eq_unknownColumn_of_columnIndex hcolumn⟩
  · rcases of_bind_eq_error hrest with hcolumns | ⟨indexes, -, hrest⟩
    · obtain ⟨column, -, hcolumn⟩ := exists_of_mapM_eq_error _ hcolumns
      exact Or.inl ⟨column, eq_unknownColumn_of_columnIndex hcolumn⟩
    · split at hrest
      · cases hrest
        exact Or.inr rfl
      · cases hrest

theorem Table.exists_unknownColumn_of_withUpdated {payload : Payload} {filter : Option Filter}
    (hupdated : table.withUpdated payload filter = .error fault) :
    ∃ column, fault = .unknownColumn column table.sheet.name := by
  rcases of_bind_eq_error hupdated with hassignments | ⟨assignments, -, hrest⟩
  · obtain ⟨⟨column, value⟩, -, hassignment⟩ := exists_of_mapM_eq_error _ hassignments
    rcases of_bind_eq_error hassignment with hcolumn | ⟨index, -, hdone⟩
    · exact ⟨column, eq_unknownColumn_of_columnIndex hcolumn⟩
    · cases hdone
  · rcases of_bind_eq_error hrest with hresolve | ⟨resolved, -, hdone⟩
    · exact exists_unknownColumn_of_resolve hresolve
    · cases hdone

theorem Table.exists_unknownColumn_of_withDeleted {filter : Option Filter}
    (hdeleted : table.withDeleted filter = .error fault) :
    ∃ column, fault = .unknownColumn column table.sheet.name := by
  rcases of_bind_eq_error hdeleted with hresolve | ⟨resolved, -, hdone⟩
  · exact exists_unknownColumn_of_resolve hresolve
  · cases hdone

/-- A check of a change finds an unknown column, or that there is no next id. -/
theorem Change.fault_of_workedOut {change : Change}
    (hworked : change.workedOut table = .error fault) :
    (∃ column, fault = .unknownColumn column table.sheet.name) ∨
      fault = .malformed table.path 0 .noNextId := by
  cases change with
  | insert payload => exact Table.fault_of_withInserted hworked
  | update payload filter =>
    exact Or.inl (Table.exists_unknownColumn_of_withUpdated (eq_error_of_map hworked))
  | delete filter =>
    exact Or.inl (Table.exists_unknownColumn_of_withDeleted (eq_error_of_map hworked))

end Checks

/-! ### Changes that change nothing -/

namespace Change

variable {change : Change} {table changed kept : Table} {number : Int} {fault : Fault}

/-- Only an update can touch a row and leave the table as it was. -/
theorem exists_update_of_workedOut_self (hworked : change.workedOut table = .ok (table, number))
    (hwrites : change.writes number = true) :
    ∃ payload filter count, change = .update payload filter ∧
      table.withUpdated payload filter = .ok (table, count) := by
  cases change with
  | insert payload =>
    obtain ⟨idIndex, -, -, hsame⟩ := Table.withInserted_eq_ok hworked
    have hrows := congrArg (fun table ↦ table.sheet.rows.length) hsame
    simp [Table.withRows] at hrows
  | update payload filter =>
    obtain ⟨worked, hupdated, hsame⟩ := exists_of_map_eq_ok hworked
    cases hsame
    exact ⟨payload, filter, worked.2, rfl, hupdated⟩
  | delete filter =>
    obtain ⟨worked, hdeleted, hsame⟩ := exists_of_map_eq_ok hworked
    obtain ⟨hself, rfl⟩ := Prod.mk.inj hsame
    obtain ⟨resolved, -, hchanged, hcount⟩ := Table.withDeleted_eq_ok hdeleted
    rw [hself] at hchanged
    have hrows : table.sheet.rows.filter (fun row ↦ !Table.selects resolved row) =
        table.sheet.rows := (congrArg (fun table ↦ table.sheet.rows) hchanged).symm
    have hnone : table.sheet.rows.countP (Table.selects resolved) = 0 :=
      List.countP_eq_zero.mpr fun row hrow ↦ by
        simpa using List.filter_eq_self.mp hrows row hrow
    simp [writes, hcount, hnone] at hwrites

section Failed

variable {input : ByteArray} {refusals : List (Option FileFailure)} {disk : Disk}

/-- A change fails where a check does, with the table as it was, or where its write is refused, with
the changed table. The disk is the same in both cases. -/
theorem failed_cases
    (hfailed : ((change.on table).runUnder input refusals disk).result = (kept, .error fault)) :
    ((change.on table).runUnder input refusals disk).disk = disk ∧
      ((change.workedOut table = .error fault ∧ kept = table) ∨
        ∃ number failure, change.workedOut table = .ok (kept, number) ∧
          change.writes number = true ∧ fault = .file failure) := by
  have hends := change.ends_on table input refusals disk
  rw [hfailed] at hends
  generalize ((change.on table).runUnder input refusals disk).disk = after at hends ⊢
  cases hends with
  | stopped hworked => exact ⟨rfl, Or.inl ⟨hworked, rfl⟩⟩
  | unwritten hworked hwrites hwrite => exact ⟨rfl, Or.inr ⟨_, _, hworked, hwrites, rfl⟩⟩

/-- What is left when a change fails, whichever accesses are refused. The file and the header are as
they were. If the write failed the table has the changed rows. So it is the table from before
exactly if a check failed, or if the change was an update that found its values in place. -/
theorem failed_on
    (hfailed : ((change.on table).runUnder input refusals disk).result = (kept, .error fault)) :
    ((change.on table).runUnder input refusals disk).disk = disk ∧
      kept.sheet.header = table.sheet.header ∧
      (∀ failure, fault = .file failure → ∃ number, change.workedOut table = .ok (kept, number)) ∧
      (kept = table ↔ (∀ failure, fault ≠ .file failure) ∨
        ∃ payload filter count, change = .update payload filter ∧
          table.withUpdated payload filter = .ok (table, count)) := by
  obtain ⟨hdisk, ⟨hworked, rfl⟩ | ⟨number, failure, hworked, hwrites, rfl⟩⟩ := failed_cases hfailed
  · have hcheck : ∀ failure, fault ≠ .file failure := by
      rintro failure rfl
      rcases fault_of_workedOut hworked with ⟨column, h⟩ | h <;> cases h
    exact ⟨hdisk, rfl, fun failure h ↦ absurd h (hcheck failure), fun _ ↦ Or.inl hcheck,
      fun _ ↦ rfl⟩
  · have hheader : kept.sheet.header = table.sheet.header := by
      obtain ⟨rows, rfl, -⟩ := workedOut_eq_ok hworked
      rfl
    refine ⟨hdisk, hheader, fun _ _ ↦ ⟨number, hworked⟩, fun hsame ↦ ?_, ?_⟩
    · rw [hsame] at hworked
      exact Or.inr (exists_update_of_workedOut_self hworked hwrites)
    · rintro (hcheck | ⟨payload, filter, count, rfl, hupdated⟩)
      · exact absurd rfl (hcheck failure)
      · have hsame : (Change.update payload filter).workedOut table =
            .ok (table, Int.ofNat count) := by
          rw [workedOut, hupdated]
          rfl
        rw [hsame] at hworked
        exact (congrArg Prod.fst (Except.ok.inj hworked)).symm

end Failed

/-- A disk with one table in a directory. -/
def keptDisk : Disk :=
  { entries := [(["d"], .directory), (["d", "t.csv"], .file "id,name\n1,Ada\n".toUTF8)] }

/-- This table. -/
def keptTable : Table :=
  ⟨"d/t.csv", ',', "id", ⟨"t", ["id", "name"], [["1", "Ada"]]⟩⟩

/-- An update that is refused to write what is there already leaves the table as it was. -/
theorem failed_on_fullDisk :
    let change : Change := .update (.ofList [("name", "Ada")]) none
    let refusal := FileFailure.system 28 "No space left on device"
    let outcome := (change.on keptTable).runUnder .empty [some refusal] keptDisk
    outcome.result = (keptTable, .error (.file refusal)) ∧ outcome.disk = keptDisk ∧
      ∃ number, change.workedOut keptTable = .ok (keptTable, number) := by
  intro change refusal outcome
  have hfailed : outcome.result = (keptTable, .error (.file refusal)) := rfl
  obtain ⟨hdisk, -, hworked, -⟩ := failed_on hfailed
  exact ⟨hfailed, hdisk, hworked refusal rfl⟩

/-- An insert into a table whose directory was removed fails, and the row is in the table all the
same. When the file is back, the same insert makes a row with another id than it would have. -/
theorem insert_lostFile :
    let change : Change := .insert (.ofList [("name", "Eve")])
    let failed := (change.on keptTable).run .empty {}
    ((Table.load {} "d/t.csv").run .empty keptDisk).result = .ok keptTable ∧
      failed.disk = {} ∧
      failed.result = (keptTable.withRows [["1", "Ada"], ["2", "Eve"]], .error (.file .notFound)) ∧
      failed.result.1.sheet.rows ≠ keptTable.sheet.rows ∧
      ((change.on keptTable).run .empty keptDisk).result.2 = .ok 2 ∧
      ((change.on failed.result.1).run .empty keptDisk).result.2 = .ok 3 := by
  intro change failed
  have hresult : failed.result =
      (keptTable.withRows [["1", "Ada"], ["2", "Eve"]], .error (.file .notFound)) := rfl
  rw [hresult]
  exact ⟨rfl, rfl, rfl, by decide, rfl, rfl⟩

end Change

end FlatTables
