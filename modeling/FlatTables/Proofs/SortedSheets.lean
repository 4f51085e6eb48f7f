import FlatTables.Proofs.NamedColumns
import FlatTables.Proofs.StableOrder

/-!
# Sorted sheets

What ordering a sheet by one of its columns gives is fixed by a few conditions
(`Sheet.OrderedBy`). The sheet keeps its name, its header and its rows. The rows with a value in the
column come first, in ascending order of the values, and rows whose values are at one place stay in
the order that they had; descending, these rows stand in reverse. The rows whose value is empty or
missing follow as they were. A column is the first one of its name, and a row may be of any length.

Each sheet has exactly one sheet of this kind for a column and a direction, and it is the one that
sorting gives (`Sheet.sort_orderedBy`).
-/

set_option autoImplicit false
set_option relaxedAutoImplicit false

namespace FlatTables

/-- Rows that stand in ascending order, turned around if the direction is descending. -/
def Direction.orient : Direction → List Row → List Row
  | .ascending, rows => rows
  | .descending, rows => rows.reverse

@[simp] theorem Direction.orient_orient (direction : Direction) (rows : List Row) :
    direction.orient (direction.orient rows) = rows := by
  cases direction with
  | ascending => rfl
  | descending => exact List.reverse_reverse rows

namespace Sheet

/-- The rows that have no value in a column, in their order. -/
def emptyRows (sheet : Sheet) (column : String) : List Row :=
  sheet.rows.filter fun row ↦ row.valueIn sheet.header column = ""

/-- The rows that have a value in a column, in their order. -/
def filledRows (sheet : Sheet) (column : String) : List Row :=
  sheet.rows.filter fun row ↦ row.valueIn sheet.header column ≠ ""

/-- What ordering a sheet has to give. -/
structure OrderedBy (order : OrderBy) (sheet sorted : Sheet) : Prop where
  name_eq : sorted.name = sheet.name
  header_eq : sorted.header = sheet.header
  rows_perm : sorted.rows.Perm sheet.rows
  rows_eq : ∃ filled, sorted.rows = filled ++ sheet.emptyRows order.column ∧
    StablyAscending (fun row ↦ fieldPlace (row.valueIn sheet.header order.column))
      (sheet.filledRows order.column) (order.direction.orient filled)

variable {sheet sorted other : Sheet} {column : String}

/-- The rows with a value in a column that the header has, in their stable ascending order. -/
theorem stablyAscending_valuedRows (hcolumn : column ∈ sheet.header) :
    StablyAscending (fun row ↦ fieldPlace (row.valueIn sheet.header column))
      (sheet.filledRows column) (valuedRows (sheet.header.idxOf column) sheet.rows) := by
  have hplaces := precedes_iff (sheet.header.idxOf column)
  unfold valuedRows filledRows
  simp only [Row.field_idxOf hcolumn] at hplaces ⊢
  exact StablyAscending.mergeSort hplaces _

theorem sort_eq_orient (hcolumn : column ∈ sheet.header) (direction : Direction) :
    sheet.sort ⟨column, direction⟩ = .ok { sheet with
      rows := direction.orient (valuedRows (sheet.header.idxOf column) sheet.rows) ++
        sheet.emptyRows column } := by
  have hrows : sortRows (sheet.header.idxOf column) direction sheet.rows =
      direction.orient (valuedRows (sheet.header.idxOf column) sheet.rows) ++
        sheet.emptyRows column := by
    rw [sortRows_eq]
    unfold emptyRows
    simp only [Row.field_idxOf hcolumn]
    cases direction <;> rfl
  rw [sort_eq hcolumn, hrows]

/-- The conditions leave no choice. -/
theorem OrderedBy.eq {order : OrderBy} (hsorted : OrderedBy order sheet sorted)
    (hother : OrderedBy order sheet other) : other = sorted := by
  obtain ⟨filled, hrows, hstable⟩ := hsorted.rows_eq
  obtain ⟨otherFilled, hotherRows, hotherStable⟩ := hother.rows_eq
  have hfilled : otherFilled = filled := by
    have horiented := congrArg order.direction.orient (hstable.eq hotherStable)
    rwa [Direction.orient_orient, Direction.orient_orient] at horiented
  have hname := hother.name_eq.trans hsorted.name_eq.symm
  have hheader := hother.header_eq.trans hsorted.header_eq.symm
  have hsame : other.rows = sorted.rows := by rw [hotherRows, hrows, hfilled]
  cases sorted
  cases other
  simp_all

/-- Sorting a sheet by a column that its header has succeeds in both directions and gives what the
conditions ask for, and nothing else meets them. The rows with a value stand in opposite orders in
the two directions, and the others follow them in the order that they had. -/
theorem sort_orderedBy (hcolumn : column ∈ sheet.header) :
    (∀ direction, ∃ sorted, sheet.sort ⟨column, direction⟩ = .ok sorted ∧
      ∀ other, OrderedBy ⟨column, direction⟩ sheet other ↔ other = sorted) ∧
    ∃ filled,
      sheet.sort ⟨column, .ascending⟩ =
        .ok { sheet with rows := filled ++ sheet.emptyRows column } ∧
      sheet.sort ⟨column, .descending⟩ =
        .ok { sheet with rows := filled.reverse ++ sheet.emptyRows column } := by
  have hsort := sort_eq_orient hcolumn
  refine ⟨fun direction ↦ ⟨_, hsort direction, ?_⟩, _, hsort .ascending, hsort .descending⟩
  have hperm := sortRows_perm (sheet.header.idxOf column) direction sheet.rows
  have hrows := (sort_eq hcolumn).symm.trans (hsort direction)
  have hordered : OrderedBy ⟨column, direction⟩ sheet { sheet with
      rows := direction.orient (valuedRows (sheet.header.idxOf column) sheet.rows) ++
        sheet.emptyRows column } := by
    constructor
    · rfl
    · rfl
    · rwa [← congrArg rows (Except.ok.inj hrows)]
    · refine ⟨_, rfl, ?_⟩
      rw [Direction.orient_orient]
      exact stablyAscending_valuedRows hcolumn
  intro other
  constructor
  · exact fun hother ↦ hordered.eq hother
  · rintro rfl
    exact hordered

/-- A sheet with two columns of one name, whose rows may be shorter or longer than its header. -/
def raggedSheet : Sheet :=
  ⟨"notes", ["v", "n", "v"],
    [["b", "1"], ["", "2", "9"], ["10"], [], ["9", "5", "", "x"], ["+010", "6"], ["B", "7"],
      ["-0", "8"], ["000", "9"]]⟩

/-- Tens and zeros that are written in two ways stand in reverse as well. -/
def raggedDescending : Sheet :=
  { raggedSheet with
    rows := [["b", "1"], ["B", "7"], ["+010", "6"], ["10"], ["9", "5", "", "x"], ["000", "9"],
      ["-0", "8"], ["", "2", "9"], []] }

theorem sort_orderedBy_raggedSheet :
    "v" ∈ raggedSheet.header ∧
      raggedSheet.sort ⟨"v", .descending⟩ = .ok raggedDescending := by
  have hcolumn : "v" ∈ raggedSheet.header := by decide
  obtain ⟨sorted, hsort, honly⟩ := (sort_orderedBy hcolumn).1 .descending
  have hordered : OrderedBy ⟨"v", .descending⟩ raggedSheet raggedDescending := by
    refine ⟨rfl, rfl, by decide, raggedDescending.rows.take 7, rfl, ?_⟩
    decide +kernel
  rw [hsort, (honly _).mp hordered]
  exact ⟨hcolumn, rfl⟩

end Sheet

end FlatTables
