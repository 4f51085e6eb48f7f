import FlatTables.Proofs.NamedColumns
import FlatTables.Proofs.StableOrder

/-!
# Stages in either order

The stages that a select takes one after the other may change places. Filtering before or after
ordering gives one sheet, with ties and rows without a value in the same order
(`Sheet.filter_sort_comm`). Columns may be chosen before the rows are filtered or ordered by one of
them, and before some of them are chosen again (`Sheet.project_comm`).

A chosen column may stand at another place than before, and fields that a row was too short for are
written out as empty ones. But every row keeps its value in the column (`Row.valueIn_chosen`), and
this is all of the row that a filter or an order by the column looks at.
-/

set_option autoImplicit false
set_option relaxedAutoImplicit false

namespace FlatTables

/-! ### Rows of chosen columns -/

namespace Row

variable {header names : List String} {column : String}

/-- The values of a row in the listed columns. -/
def chosen (row : Row) (header names : List String) : Row :=
  names.map (row.valueIn header)

theorem valueIn_chosen (hcolumn : column ∈ names) (row : Row) :
    (row.chosen header names).valueIn names column = row.valueIn header column :=
  valueIn_map hcolumn _

theorem field_chosen (hnames : ∀ name ∈ names, name ∈ header) (hcolumn : column ∈ names)
    (row : Row) : (row.chosen header names).field (names.idxOf column) =
      row.field (header.idxOf column) := by
  rw [field_idxOf hcolumn, valueIn_chosen hcolumn, field_idxOf (hnames column hcolumn)]

theorem meets_chosen (hcolumn : column ∈ names) (value : String) (row : Row) :
    (row.chosen header names).meets names (some ⟨column, value⟩) =
      row.meets header (some ⟨column, value⟩) := by
  simp only [meets, Option.all_some, valueIn_chosen hcolumn]

theorem chosen_chosen {fewer : List String} (hfewer : ∀ name ∈ fewer, name ∈ names) (row : Row) :
    (row.chosen header names).chosen names fewer = row.chosen header fewer :=
  List.map_congr_left fun name hname ↦ valueIn_chosen (hfewer name hname) row

end Row

namespace Sheet

/-! ### Ordered rows among others -/

theorem sortRows_filter (index : Nat) (direction : Direction) (keep : Row → Bool)
    (rows : List Row) :
    sortRows index direction (rows.filter keep) = (sortRows index direction rows).filter keep := by
  have hfield : ∀ row result, Option.guard keep row = some result →
      result.field index = row.field index := by
    intro row result hkept
    rw [(Option.guard_eq_some_iff.mp hkept).1]
  have hrows := sortRows_filterMap hfield direction rows
  rwa [List.filterMap_eq_filter] at hrows

/-- Rows that are changed, but for the field that they are ordered by, are ordered as they were. -/
theorem sortRows_map {index other : Nat} {change : Row → Row}
    (hfield : ∀ row, (change row).field other = row.field index) (direction : Direction)
    (rows : List Row) :
    sortRows other direction (rows.map change) = (sortRows index direction rows).map change := by
  have himage : ∀ row result, (some ∘ change) row = some result →
      result.field other = row.field index := by
    rintro row result ⟨⟩
    exact hfield row
  have hrows := sortRows_filterMap himage direction rows
  rwa [List.filterMap_eq_map] at hrows

variable {sheet : Sheet}

/-! ### Filters and orders -/

/-- A sheet can be filtered before it is ordered or after, with one result: its name, its header and
its rows in their order. -/
theorem filter_sort_comm {condition : Filter} {order : OrderBy}
    (hcondition : condition.column ∈ sheet.header) (horder : order.column ∈ sheet.header) :
    ∃ kept sorted result, sheet.filter condition = .ok kept ∧ kept.sort order = .ok result ∧
      sheet.sort order = .ok sorted ∧ sorted.filter condition = .ok result := by
  let ordered : Sheet := { sheet with
    rows := sortRows (sheet.header.idxOf order.column) order.direction sheet.rows }
  have hfiltered : ordered.filter condition = .ok { ordered with
      rows := ordered.rows.filter fun row ↦ row.meets sheet.header (some condition) } :=
    filter_eq hcondition
  refine ⟨_, ordered, _, filter_eq hcondition, sort_eq horder, sort_eq horder, ?_⟩
  rw [hfiltered, sortRows_filter]

/-- A sheet with two columns of one name and with one number written in many ways. One row is longer
than the header, and two have no value in the second column. -/
def tiedSheet : Sheet :=
  ⟨"notes", ["k", "n", "k"],
    [["7", "a"], ["", "b"], ["07", "a", "z"], ["x"], ["007", "b"], ["+7", "a"], ["", "a"], []]⟩

/-- The rows with one number stand in reverse, and those without a key as they were. -/
def tiedDescending : Sheet :=
  { tiedSheet with
    rows := [["x"], ["+7", "a"], ["007", "b"], ["07", "a", "z"], ["7", "a"], ["", "b"], ["", "a"],
      []] }

theorem sort_tiedSheet : tiedSheet.sort ⟨"k", .descending⟩ = .ok tiedDescending := by cbv

theorem filter_sort_comm_tiedSheet :
    "n" ∈ tiedSheet.header ∧ "k" ∈ tiedSheet.header ∧ ∃ kept result,
      tiedSheet.filter ⟨"n", "a"⟩ = .ok kept ∧ kept.sort ⟨"k", .descending⟩ = .ok result ∧
      result.rows = [["+7", "a"], ["07", "a", "z"], ["7", "a"], ["", "a"]] := by
  have hcondition : "n" ∈ tiedSheet.header := by decide
  have horder : "k" ∈ tiedSheet.header := by decide
  obtain ⟨kept, sorted, result, hkept, hresult, hsorted, hfiltered⟩ :=
    @filter_sort_comm tiedSheet ⟨"n", "a"⟩ ⟨"k", .descending⟩ hcondition horder
  obtain rfl := Except.ok.inj (sort_tiedSheet.symm.trans hsorted)
  have hrows : tiedDescending.filter ⟨"n", "a"⟩ = .ok { tiedSheet with
      rows := [["+7", "a"], ["07", "a", "z"], ["7", "a"], ["", "a"]] } := by decide
  obtain rfl := Except.ok.inj (hrows.symm.trans hfiltered)
  exact ⟨hcondition, horder, kept, _, hkept, hresult, rfl⟩

/-! ### Chosen columns -/

/-- The sheet with the values of its rows in the listed columns. -/
def choosing (sheet : Sheet) (names : List String) : Sheet :=
  { sheet with
    header := names
    rows := sheet.rows.map fun row ↦ row.chosen sheet.header names }

variable {names : List String} {column : String}

theorem project_eq_choosing (hnames : ∀ name ∈ names, name ∈ sheet.header) :
    sheet.project (.columns names) = .ok (sheet.choosing names) :=
  project_eq hnames

theorem filter_choosing (hcolumn : column ∈ names) (value : String) :
    (sheet.choosing names).filter ⟨column, value⟩ = .ok (choosing { sheet with
      rows := sheet.rows.filter fun row ↦ row.meets sheet.header (some ⟨column, value⟩) }
        names) := by
  have hrows : ((sheet.rows.map fun row ↦ row.chosen sheet.header names).filter fun row ↦
        row.meets names (some ⟨column, value⟩)) =
      (sheet.rows.filter fun row ↦ row.meets sheet.header (some ⟨column, value⟩)).map fun row ↦
        row.chosen sheet.header names := by
    rw [List.filter_map]
    refine congrArg (List.map _) (List.filter_congr fun row _ ↦ ?_)
    exact Row.meets_chosen hcolumn value row
  have hfilter : (sheet.choosing names).filter ⟨column, value⟩ = .ok { sheet.choosing names with
      rows := (sheet.choosing names).rows.filter fun row ↦
        row.meets names (some ⟨column, value⟩) } := filter_eq hcolumn
  rw [hfilter]
  dsimp only [choosing]
  rw [hrows]

theorem sort_choosing (hnames : ∀ name ∈ names, name ∈ sheet.header) (hcolumn : column ∈ names)
    (direction : Direction) :
    (sheet.choosing names).sort ⟨column, direction⟩ = .ok (choosing { sheet with
      rows := sortRows (sheet.header.idxOf column) direction sheet.rows } names) := by
  have hsort : (sheet.choosing names).sort ⟨column, direction⟩ = .ok { sheet.choosing names with
      rows := sortRows (names.idxOf column) direction (sheet.choosing names).rows } :=
    sort_eq hcolumn
  rw [hsort]
  dsimp only [choosing]
  rw [sortRows_map fun row ↦ Row.field_chosen hnames hcolumn row]

theorem choosing_choosing {fewer : List String} (hfewer : ∀ name ∈ fewer, name ∈ names) :
    (sheet.choosing names).choosing fewer = sheet.choosing fewer := by
  have hrows : ((sheet.rows.map fun row ↦ row.chosen sheet.header names).map fun row ↦
      row.chosen names fewer) = sheet.rows.map fun row ↦ row.chosen sheet.header fewer := by
    rw [List.map_map]
    exact List.map_congr_left fun row _ ↦ Row.chosen_chosen hfewer row
  dsimp only [choosing]
  rw [hrows]

/-- Chosen columns can be filtered and ordered by each of them, and chosen from again, as all the
columns can, with one result. -/
theorem project_comm (hnames : ∀ name ∈ names, name ∈ sheet.header) :
    ∃ chosen, sheet.project (.columns names) = .ok chosen ∧
      (∀ column ∈ names,
        (∀ value, ∃ kept result, sheet.filter ⟨column, value⟩ = .ok kept ∧
          kept.project (.columns names) = .ok result ∧
          chosen.filter ⟨column, value⟩ = .ok result) ∧
        ∀ direction, ∃ sorted result, sheet.sort ⟨column, direction⟩ = .ok sorted ∧
          sorted.project (.columns names) = .ok result ∧
          chosen.sort ⟨column, direction⟩ = .ok result) ∧
      ∀ fewer : List String, (∀ name ∈ fewer, name ∈ names) → ∃ result,
        sheet.project (.columns fewer) = .ok result ∧
          chosen.project (.columns fewer) = .ok result := by
  refine ⟨_, project_eq_choosing hnames, fun column hcolumn ↦ ⟨fun value ↦ ?_,
    fun direction ↦ ?_⟩, fun fewer hfewer ↦ ?_⟩
  · have hcondition : (Filter.mk column value).column ∈ sheet.header := hnames column hcolumn
    exact ⟨_, _, filter_eq hcondition, project_eq_choosing hnames, filter_choosing hcolumn value⟩
  · have horder : (OrderBy.mk column direction).column ∈ sheet.header := hnames column hcolumn
    exact ⟨_, _, sort_eq horder, project_eq_choosing hnames,
      sort_choosing hnames hcolumn direction⟩
  · have hall : ∀ name ∈ fewer, name ∈ sheet.header :=
      fun name hname ↦ hnames name (hfewer name hname)
    refine ⟨_, project_eq_choosing hall, ?_⟩
    rw [← choosing_choosing hfewer]
    exact project_eq_choosing hfewer

/-- The chosen columns stand in another order, one of them twice. A value that a row is too short
for is found as an empty one. -/
theorem project_comm_tiedSheet :
    (∀ name ∈ ["n", "k", "n"], name ∈ tiedSheet.header) ∧ ∃ chosen kept ordered,
      tiedSheet.project (.columns ["n", "k", "n"]) = .ok chosen ∧
      chosen.filter ⟨"n", ""⟩ = .ok kept ∧ kept.rows = [["", "x", ""], ["", "", ""]] ∧
      chosen.sort ⟨"k", .descending⟩ = .ok ordered ∧
      ordered.rows.map (·.take 2) = [["", "x"], ["a", "+7"], ["b", "007"], ["a", "07"], ["a", "7"],
        ["b", ""], ["a", ""], ["", ""]] ∧
      ∃ keys, tiedSheet.project (.columns ["k"]) = .ok keys ∧
        chosen.project (.columns ["k"]) = .ok keys := by
  have hnames : ∀ name ∈ ["n", "k", "n"], name ∈ tiedSheet.header := by decide
  obtain ⟨chosen, hchosen, hcolumns, hfewer⟩ := project_comm hnames
  obtain ⟨found, kept, hfound, hkept, hfilter⟩ := (hcolumns "n" (by decide)).1 ""
  obtain ⟨sorted, ordered, hsorted, hordered, hsort⟩ := (hcolumns "k" (by decide)).2 .descending
  obtain rfl := Except.ok.inj (sort_tiedSheet.symm.trans hsorted)
  have hfoundRows : tiedSheet.filter ⟨"n", ""⟩ = .ok { tiedSheet with rows := [["x"], []] } := by
    decide
  obtain rfl := Except.ok.inj (hfoundRows.symm.trans hfound)
  cases hkept
  cases hordered
  exact ⟨hnames, chosen, _, _, hchosen, hfilter, by decide, hsort, by decide,
    hfewer ["k"] (by decide)⟩

end Sheet

end FlatTables
