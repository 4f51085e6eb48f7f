import FlatTables.Proofs.Results
import FlatTables.Table
import Mathlib.Data.List.Basic
import Mathlib.Data.List.ProdSigma

/-!
# Columns by name

The program finds a column once, by its name, and then reads every row at that position. A reader
of a table has names and values only: the value of a row in a column is what stands beside the first
of the columns with this name (`Row.valueIn`). The two agree for every column that the header has
(`Row.field_idxOf`), also in rows that are too short. Under a header without repeated names the
values of a row, taken column by column, are the row (`Row.map_valueIn`).
-/

set_option autoImplicit false
set_option relaxedAutoImplicit false

namespace FlatTables

/-! ### Positions -/

namespace Sheet

variable {sheet : Sheet} {column : String} {index : Nat}

/-- A column is found exactly if the header has it, and then at its first place. -/
theorem columnIndex_eq_ok_iff :
    sheet.columnIndex column = .ok index ↔
      column ∈ sheet.header ∧ index = sheet.header.idxOf column := by
  have hfirst := List.idxOf_eq_getD_idxOf? column sheet.header
  unfold columnIndex
  cases hfound : sheet.header.idxOf? column with
  | none =>
    have hmissing : column ∉ sheet.header := List.idxOf?_eq_none_iff.mp hfound
    simp [hmissing]
  | some position =>
    have hcolumn : column ∈ sheet.header := List.isSome_idxOf?.mp (by rw [hfound]; rfl)
    rw [hfound, Option.getD_some] at hfirst
    simp [hcolumn, hfirst, eq_comm]

theorem columnIndex_of_mem (hcolumn : column ∈ sheet.header) :
    sheet.columnIndex column = .ok (sheet.header.idxOf column) :=
  columnIndex_eq_ok_iff.mpr ⟨hcolumn, rfl⟩

end Sheet

namespace Table

variable {table : Table} {column : String} {index : Nat}

theorem columnIndex_eq_ok_iff :
    table.columnIndex column = .ok index ↔
      column ∈ table.sheet.header ∧ index = table.sheet.header.idxOf column := by
  rw [← Sheet.columnIndex_eq_ok_iff, columnIndex]
  cases table.sheet.columnIndex column with
  | error unknown =>
    constructor
    · intro hfound
      cases hfound
    · intro hfound
      cases hfound
  | ok found =>
    constructor
    · exact fun hfound ↦ congrArg Except.ok (Except.ok.inj hfound)
    · exact fun hfound ↦ congrArg Except.ok (Except.ok.inj hfound)

theorem lt_of_columnIndex (hindex : table.columnIndex column = .ok index) :
    index < table.sheet.header.length := by
  obtain ⟨hcolumn, rfl⟩ := columnIndex_eq_ok_iff.mp hindex
  exact List.idxOf_lt_length_iff.mpr hcolumn

end Table

/-! ### Values -/

namespace Row

/-- The value of a row in the first column of a name, empty if there is none. -/
def valueIn (row : Row) (header : List String) (column : String) : String :=
  ((header.zip row).lookup column).getD ""

theorem valueIn_cons (name : String) (header : List String) (value : String) (row : Row)
    (column : String) :
    valueIn (value :: row) (name :: header) column =
      if column = name then value else valueIn row header column := by
  unfold valueIn
  rw [List.zip_cons_cons, List.lookup_cons]
  by_cases hcolumn : column = name
  · simp [hcolumn]
  · simp [hcolumn, beq_false_of_ne hcolumn]

theorem valueIn_of_notMem {header : List String} {column : String} (hcolumn : column ∉ header)
    (row : Row) : row.valueIn header column = "" := by
  have hlookup : (header.zip row).lookup column = none := by
    refine List.lookup_eq_none_iff.mpr fun entry hentry ↦ ?_
    have hname : entry.1 ∈ header := (List.of_mem_zip hentry).1
    exact bne_iff_ne.mpr fun hsame ↦ hcolumn (hsame ▸ hname)
  rw [valueIn, hlookup, Option.getD_none]

/-- The field at the position of a column is the value in this column. -/
theorem field_idxOf {header : List String} {column : String} (hcolumn : column ∈ header) :
    ∀ row : Row, row.field (header.idxOf column) = row.valueIn header column := by
  induction header with
  | nil => exact absurd hcolumn List.not_mem_nil
  | cons name header ih =>
    intro row
    cases row with
    | nil => simp [field, valueIn]
    | cons value row =>
      rw [valueIn_cons]
      by_cases hname : column = name
      · subst column
        rw [if_pos rfl, List.idxOf_cons_self]
        rfl
      · have hrest : column ∈ header := (List.mem_cons.mp hcolumn).resolve_left hname
        rw [if_neg hname, ← ih hrest row, List.idxOf_cons_ne header (Ne.symm hname)]
        rfl

/-- The values of a row, column by column, are its fields. -/
theorem map_valueIn {header : List String} (hnodup : header.Nodup) :
    ∀ {row : Row}, row.length = header.length → header.map (row.valueIn header) = row := by
  induction header with
  | nil =>
    intro row hlength
    rw [List.length_eq_zero_iff.mp hlength, List.map_nil]
  | cons name header ih =>
    intro row hlength
    obtain ⟨hname, hrest⟩ := List.nodup_cons.mp hnodup
    cases row with
    | nil => simp at hlength
    | cons value row =>
      have htail : header.map (valueIn (value :: row) (name :: header)) =
          header.map (valueIn row header) := by
        refine List.map_congr_left fun column hcolumn ↦ ?_
        have hne : column ≠ name := fun h ↦ hname (h ▸ hcolumn)
        rw [valueIn_cons, if_neg hne]
      have hwidth : row.length = header.length := by simpa using hlength
      rw [List.map_cons, valueIn_cons, if_pos rfl, htail, ih hrest hwidth]

/-- A row that is made column by column has what was made for a column there. -/
theorem valueIn_map {header : List String} {column : String} (hcolumn : column ∈ header)
    (value : String → String) : valueIn (header.map value) header column = value column := by
  induction header with
  | nil => exact absurd hcolumn List.not_mem_nil
  | cons name header ih =>
    rw [List.map_cons, valueIn_cons]
    by_cases hname : column = name
    · rw [if_pos hname, hname]
    · rw [if_neg hname, ih ((List.mem_cons.mp hcolumn).resolve_left hname)]

/-- Whether a row has the value of a filter in its column, if there is a filter. -/
def meets (row : Row) (header : List String) (filter : Option Filter) : Bool :=
  filter.all fun condition ↦ row.valueIn header condition.column = condition.value

end Row

/-! ### Stages -/

namespace Sheet

variable {sheet left right : Sheet}

theorem filter_eq {condition : Filter} (hcolumn : condition.column ∈ sheet.header) :
    sheet.filter condition = .ok { sheet with
      rows := sheet.rows.filter fun row ↦ row.meets sheet.header (some condition) } := by
  have hrows : (sheet.rows.filter fun row ↦
        row.field (sheet.header.idxOf condition.column) == condition.value) =
      sheet.rows.filter fun row ↦ row.meets sheet.header (some condition) := by
    refine List.filter_congr fun row _ ↦ ?_
    rw [Row.field_idxOf hcolumn]
    rfl
  rw [filter, columnIndex_of_mem hcolumn, ← hrows]
  rfl

theorem sort_eq {order : OrderBy} (hcolumn : order.column ∈ sheet.header) :
    sheet.sort order = .ok { sheet with
      rows := sortRows (sheet.header.idxOf order.column) order.direction sheet.rows } := by
  rw [sort, columnIndex_of_mem hcolumn]
  rfl

/-- The rows of a join are the pairs with one value in the two columns, in left-major order. -/
theorem join_eq {column otherColumn : String} (hcolumn : column ∈ left.header)
    (hother : otherColumn ∈ right.header) :
    left.join right column otherColumn = .ok {
      name := left.name ++ " JOIN " ++ right.name
      header := joinHeader left.header right.header
      rows := ((left.rows.product right.rows).filter fun pair ↦
        pair.1.valueIn left.header column = pair.2.valueIn right.header otherColumn).map fun pair ↦
          pair.1.fit left.header.length ++ pair.2.fit right.header.length } := by
  have hrows : joinRows left right (left.header.idxOf column) (right.header.idxOf otherColumn) =
      ((left.rows.product right.rows).filter fun pair ↦
        pair.1.valueIn left.header column = pair.2.valueIn right.header otherColumn).map fun pair ↦
          pair.1.fit left.header.length ++ pair.2.fit right.header.length := by
    unfold joinRows List.product
    rw [List.filter_flatMap, List.map_flatMap]
    refine List.flatMap_congr fun leftRow _ ↦ ?_
    rw [List.filter_map, List.map_map]
    refine congrArg (List.map _) (List.filter_congr fun rightRow _ ↦ ?_)
    rw [Row.field_idxOf hcolumn, Row.field_idxOf hother]
    rfl
  rw [join, columnIndex_of_mem hcolumn, columnIndex_of_mem hother, ← hrows]
  rfl

theorem project_eq {names : List String} (hnames : ∀ name ∈ names, name ∈ sheet.header) :
    sheet.project (.columns names) = .ok { sheet with
      header := names
      rows := sheet.rows.map fun row ↦ names.map (row.valueIn sheet.header) } := by
  have hindexes : names.mapM sheet.columnIndex = .ok (names.map sheet.header.idxOf) :=
    mapM_eq_pure_map names fun name hname ↦ columnIndex_of_mem (hnames name hname)
  have hrows : (sheet.rows.map fun row ↦ (names.map sheet.header.idxOf).map row.field) =
      sheet.rows.map fun row ↦ names.map (row.valueIn sheet.header) := by
    refine List.map_congr_left fun row _ ↦ ?_
    rw [List.map_map]
    exact List.map_congr_left fun name hname ↦ Row.field_idxOf (hnames name hname) row
  rw [project, hindexes, ← hrows]
  rfl

end Sheet

end FlatTables
