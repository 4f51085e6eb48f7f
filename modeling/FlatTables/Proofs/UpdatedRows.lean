import FlatTables.Proofs.NamedChanges

/-!
# Updated rows

An update gives the values of its payload to the rows that meet its filter (`Row.updated`), and a
delete takes rows away. Told by the names of columns, both are made on whole tables
(`Table.updated`, `Table.without`) and report the rows that they found (`Table.found`).

The laws of these follow. An update that is made again changes nothing (`Table.updated_self`), and
an update changes places with another (`Table.updated_comm`) or with a delete
(`Table.without_updated`). Which rows are found after an update depends on the column of the filter
alone: on whether the payload spares it, or has another value for it than the filter asks for.
-/

set_option autoImplicit false
set_option relaxedAutoImplicit false

namespace FlatTables

/-! ### Values put into rows -/

namespace Payload

/-- The payload leaves the column of the filter alone. -/
def Spares (payload : Payload) (filter : Option Filter) : Prop :=
  ∀ condition ∈ filter, condition.column ∉ payload.columns

instance (payload : Payload) (filter : Option Filter) : Decidable (payload.Spares filter) :=
  inferInstanceAs (Decidable (∀ condition ∈ filter, condition.column ∉ payload.columns))

/-- The payload has a value for the column of the filter, and not the one that the filter asks
for. -/
def Reassigns (payload : Payload) (filter : Option Filter) : Prop :=
  ∃ condition ∈ filter, ∃ value ∈ payload.get? condition.column, value ≠ condition.value

instance (payload : Payload) (filter : Option Filter) : Decidable (payload.Reassigns filter) :=
  inferInstanceAs (Decidable (∃ condition ∈ filter, ∃ value ∈ payload.get? condition.column,
    value ≠ condition.value))

end Payload

namespace Row

/-- The row with the values of a payload if it meets a filter. -/
def updated (row : Row) (header : List String) (payload : Payload) (filter : Option Filter) :
    Row :=
  if row.meets header filter then row.assigned header payload else row

variable {header : List String} {payload other : Payload} {filter otherFilter : Option Filter}

theorem length_updated {row : Row} (hwidth : row.length = header.length) :
    (row.updated header payload filter).length = header.length := by
  unfold updated
  split
  · exact List.length_map _
  · exact hwidth

theorem valueIn_assigned {column : String} (hcolumn : column ∈ header) (row : Row) :
    (row.assigned header payload).valueIn header column =
      (payload.get? column).getD (row.valueIn header column) :=
  valueIn_map hcolumn _

/-- A row with the values of a payload meets a condition by the value of the payload if it has one,
and otherwise by its own. -/
theorem meets_assigned_some {condition : Filter} (hcolumn : condition.column ∈ header) (row : Row) :
    (row.assigned header payload).meets header (some condition) =
      decide ((payload.get? condition.column).getD (row.valueIn header condition.column) =
        condition.value) := by
  rw [← valueIn_assigned hcolumn]
  rfl

theorem assigned_self (row : Row) :
    (row.assigned header payload).assigned header payload = row.assigned header payload := by
  refine List.map_congr_left fun column hcolumn ↦ ?_
  rw [valueIn_assigned hcolumn]
  cases payload.get? column <;> rfl

theorem assigned_comm (hapart : payload.columns.Disjoint other.columns) (row : Row) :
    (row.assigned header payload).assigned header other =
      (row.assigned header other).assigned header payload := by
  refine List.map_congr_left fun column hcolumn ↦ ?_
  rw [valueIn_assigned hcolumn, valueIn_assigned hcolumn]
  by_cases hassigned : column ∈ payload.columns
  · rw [Payload.get?_eq_none_iff.mpr (hapart hassigned)]
    rfl
  · rw [Payload.get?_eq_none_iff.mpr hassigned]
    rfl

section Filtered

variable (hcolumns : ∀ condition ∈ filter, condition.column ∈ header)

include hcolumns

/-- A row that gets the values of a payload meets a filter as before if these are in other
columns. -/
theorem meets_assigned (hspares : payload.Spares filter) (row : Row) :
    (row.assigned header payload).meets header filter = row.meets header filter := by
  cases filter with
  | none => rfl
  | some condition =>
    rw [meets_assigned_some (hcolumns condition rfl),
      Payload.get?_eq_none_iff.mpr (hspares condition rfl)]
    rfl

theorem meets_assigned_of_reassigns (hreassigns : payload.Reassigns filter) (row : Row) :
    (row.assigned header payload).meets header filter = false := by
  obtain ⟨condition, hcondition, value, hvalue, hother⟩ := hreassigns
  cases hcondition
  rw [meets_assigned_some (hcolumns condition rfl), hvalue]
  exact decide_eq_false hother

theorem meets_assigned_of_not_reassigns (hkeeps : ¬ payload.Reassigns filter) {row : Row}
    (hmeets : row.meets header filter = true) :
    (row.assigned header payload).meets header filter = true := by
  cases filter with
  | none => rfl
  | some condition =>
    rw [meets_assigned_some (hcolumns condition rfl)]
    refine decide_eq_true ?_
    cases hvalue : payload.get? condition.column with
    | none => exact of_decide_eq_true hmeets
    | some value =>
      by_contra hother
      exact hkeeps ⟨condition, rfl, value, hvalue, hother⟩

/-- After an update that moves its rows out of the filter no row meets it. -/
theorem meets_updated_of_reassigns (hreassigns : payload.Reassigns filter) (row : Row) :
    (row.updated header payload filter).meets header filter = false := by
  unfold updated
  split
  · exact meets_assigned_of_reassigns hcolumns hreassigns row
  · next hmeets => exact Bool.eq_false_iff.mpr hmeets

theorem meets_updated_of_not_reassigns (hkeeps : ¬ payload.Reassigns filter) (row : Row) :
    (row.updated header payload filter).meets header filter = row.meets header filter := by
  unfold updated
  split
  · next hmeets => rw [meets_assigned_of_not_reassigns hcolumns hkeeps hmeets, hmeets]
  · rfl

theorem meets_updated (hspares : payload.Spares filter) (row : Row) :
    (row.updated header payload otherFilter).meets header filter = row.meets header filter := by
  unfold updated
  split
  · exact meets_assigned hcolumns hspares row
  · rfl

/-- A row that was updated in other columns is updated next if it met the filter before. -/
theorem updated_updated (hspares : payload.Spares filter) (row : Row) :
    (row.updated header payload otherFilter).updated header other filter =
      if row.meets header filter then (row.updated header payload otherFilter).assigned header other
      else row.updated header payload otherFilter := by
  rw [← meets_updated hcolumns hspares row]
  rfl

end Filtered

theorem updated_self (row : Row) :
    (row.updated header payload filter).updated header payload filter =
      row.updated header payload filter := by
  by_cases hmeets : row.meets header filter = true
  · have hassigned : row.updated header payload filter = row.assigned header payload :=
      if_pos hmeets
    rw [hassigned, updated, assigned_self, ite_self]
  · have hkept : row.updated header payload filter = row := if_neg hmeets
    rw [hkept, hkept]

/-- Updates of a row change places if neither assigns a column that the other one names, both
filtering by columns of the header. -/
theorem updated_comm (hcolumns : ∀ condition ∈ filter, condition.column ∈ header)
    (hothers : ∀ condition ∈ otherFilter, condition.column ∈ header)
    (hapart : payload.columns.Disjoint other.columns)
    (hspares : payload.Spares otherFilter) (hotherSpares : other.Spares filter) (row : Row) :
    (row.updated header payload filter).updated header other otherFilter =
      (row.updated header other otherFilter).updated header payload filter := by
  rw [updated_updated hothers hspares, updated_updated hcolumns hotherSpares]
  unfold updated
  by_cases hmeets : row.meets header filter = true
  · by_cases hother : row.meets header otherFilter = true
    · simp only [if_pos hmeets, if_pos hother, assigned_comm hapart]
    · simp only [if_pos hmeets, if_neg hother]
  · simp only [if_neg hmeets]

end Row

/-! ### Updated tables -/

namespace Table

/-- The table with the values of a payload in the rows that meet a filter. -/
def updated (table : Table) (payload : Payload) (filter : Option Filter) : Table :=
  table.withRows (table.sheet.rows.map fun row ↦ row.updated table.sheet.header payload filter)

/-- The table without the rows that meet a filter. -/
def without (table : Table) (filter : Option Filter) : Table :=
  table.withRows (table.sheet.rows.filter fun row ↦ !row.meets table.sheet.header filter)

/-- How many rows meet a filter. -/
def found (table : Table) (filter : Option Filter) : Nat :=
  table.sheet.rows.countP fun row ↦ row.meets table.sheet.header filter

variable {table : Table} {payload other : Payload} {filter otherFilter : Option Filter}

/-- Updated rows keep their width. -/
theorem Sound.updated (hsound : table.Sound) (payload : Payload) (filter : Option Filter) :
    (table.updated payload filter).Sound where
  header_ne_nil := hsound.header_ne_nil
  header_nodup := hsound.header_nodup
  rows_length := by
    intro row hrow
    obtain ⟨old, hold, rfl⟩ := List.mem_map.mp hrow
    exact Row.length_updated (hsound.rows_length old hold)

theorem Sound.without (hsound : table.Sound) (filter : Option Filter) :
    (table.without filter).Sound where
  header_ne_nil := hsound.header_ne_nil
  header_nodup := hsound.header_nodup
  rows_length row hrow := hsound.rows_length row (List.mem_of_mem_filter hrow)

theorem updated_updated (table : Table) (payload other : Payload)
    (filter otherFilter : Option Filter) :
    (table.updated payload filter).updated other otherFilter =
      table.withRows (table.sheet.rows.map fun row ↦
        (row.updated table.sheet.header payload filter).updated table.sheet.header other
          otherFilter) :=
  congrArg table.withRows List.map_map

/-- An update that is made again changes nothing. -/
theorem updated_self (table : Table) (payload : Payload) (filter : Option Filter) :
    (table.updated payload filter).updated payload filter = table.updated payload filter := by
  rw [updated_updated]
  exact congrArg table.withRows (List.map_congr_left fun row _ ↦ row.updated_self)

theorem found_updated_eq (table : Table) (payload : Payload) (filter otherFilter : Option Filter) :
    (table.updated payload filter).found otherFilter = table.sheet.rows.countP fun row ↦
      (row.updated table.sheet.header payload filter).meets table.sheet.header otherFilter :=
  List.countP_map

/-- Rows that a delete took away are not found any more. -/
theorem found_without (table : Table) (filter otherFilter : Option Filter) :
    (table.without otherFilter).found filter +
        (table.sheet.rows.countP fun row ↦
          row.meets table.sheet.header filter && row.meets table.sheet.header otherFilter) =
      table.found filter := by
  have hsplit := List.countP_eq_countP_filter_add table.sheet.rows
    (fun row ↦ row.meets table.sheet.header filter)
    (fun row ↦ row.meets table.sheet.header otherFilter)
  rw [List.countP_filter, Nat.add_comm] at hsplit
  exact hsplit.symm

section Named

variable (hcolumns : ∀ condition ∈ filter, condition.column ∈ table.sheet.header)

include hcolumns

theorem withUpdated_eq_updated (hsound : table.Sound)
    (hpayload : ∀ column ∈ payload.columns, column ∈ table.sheet.header) :
    table.withUpdated payload filter = .ok (table.updated payload filter, table.found filter) :=
  withUpdated_of_mem hsound hpayload hcolumns

theorem withDeleted_eq_without :
    table.withDeleted filter = .ok (table.without filter, table.found filter) :=
  withDeleted_of_mem hcolumns

/-- After an update that moves its rows out of the filter no row meets it. -/
theorem found_updated_of_reassigns (hreassigns : payload.Reassigns filter) :
    (table.updated payload filter).found filter = 0 := by
  rw [found_updated_eq]
  refine List.countP_eq_zero.mpr fun row _ ↦ ?_
  exact Bool.eq_false_iff.mp (Row.meets_updated_of_reassigns hcolumns hreassigns row)

theorem found_updated_of_not_reassigns (hkeeps : ¬ payload.Reassigns filter) :
    (table.updated payload filter).found filter = table.found filter := by
  rw [found_updated_eq]
  refine List.countP_congr fun row _ ↦ ?_
  rw [Row.meets_updated_of_not_reassigns hcolumns hkeeps]

/-- An update that spares the column of a filter leaves the rows that meet it. -/
theorem found_updated (hspares : payload.Spares filter) :
    (table.updated payload otherFilter).found filter = table.found filter := by
  rw [found_updated_eq]
  refine List.countP_congr fun row _ ↦ ?_
  rw [Row.meets_updated hcolumns hspares]

/-- A delete takes the rows that it would have taken before an update of other columns. -/
theorem without_updated (hspares : payload.Spares filter) :
    (table.updated payload otherFilter).without filter =
      (table.without filter).updated payload otherFilter := by
  refine congrArg table.withRows ?_
  refine List.filter_map.trans (congrArg (List.map _) (List.filter_congr fun row _ ↦ ?_))
  exact congrArg Bool.not (Row.meets_updated hcolumns hspares row)

/-- Updates change places if neither assigns a column that the other one names. -/
theorem updated_comm (hothers : ∀ condition ∈ otherFilter, condition.column ∈ table.sheet.header)
    (hapart : payload.columns.Disjoint other.columns) (hspares : payload.Spares otherFilter)
    (hotherSpares : other.Spares filter) :
    (table.updated payload filter).updated other otherFilter =
      (table.updated other otherFilter).updated payload filter := by
  rw [updated_updated, updated_updated]
  refine congrArg table.withRows (List.map_congr_left fun row _ ↦ ?_)
  exact row.updated_comm hcolumns hothers hapart hspares hotherSpares

end Named

end Table

end FlatTables
