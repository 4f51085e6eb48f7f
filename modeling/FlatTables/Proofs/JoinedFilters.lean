import FlatTables.Proofs.JoinedRows
import FlatTables.Proofs.RenamedColumns

/-!
# Filters and joins

A select filters the rows of a join. It might as well filter the rows of a table before they are
joined: the rows that are kept come out the same and in the same order (`Sheet.filter_join_comm`).

A left column keeps its name and its place in the join, and a right one is found at its own place
behind the left columns, under the name that it was given there. At these places a row of the join
has the field of the left or the right row of its pair, however long the two rows are
(`Row.SideBySide.field_left`, `Row.SideBySide.field_right`). So the filter keeps the rows of the
pairs whose left or right row it keeps, and these are the pairs of the filtered sheet
(`Sheet.pairs_left`, `Sheet.pairs_right`).
-/

set_option autoImplicit false
set_option relaxedAutoImplicit false

namespace FlatTables

/-! ### Pairs of kept rows -/

theorem product_filter_left (keep : Row → Bool) (others : List Row) (rows : List Row) :
    (rows.filter keep).product others = (rows.product others).filter fun pair ↦ keep pair.1 := by
  induction rows with
  | nil => rfl
  | cons row rows ih =>
    have hsplit : ((row :: rows).product others).filter (fun pair ↦ keep pair.1) =
        (others.filter fun _ ↦ keep row).map (Prod.mk row) ++
          (rows.filter keep).product others := by
      rw [ih, List.product, List.flatMap_cons, List.filter_append, List.filter_map]
      rfl
    rw [hsplit]
    by_cases hrow : keep row = true
    · rw [List.filter_cons_of_pos hrow, hrow, List.filter_true]
      rfl
    · rw [List.filter_cons_of_neg hrow, Bool.eq_false_iff.mpr hrow, List.filter_false]
      rfl

theorem product_filter_right (keep : Row → Bool) (rows others : List Row) :
    rows.product (others.filter keep) = (rows.product others).filter fun pair ↦ keep pair.2 := by
  rw [List.product, List.product, List.filter_flatMap]
  refine List.flatMap_congr fun row _ ↦ ?_
  rw [List.filter_map]
  rfl

/-! ### Fields of joined rows -/

namespace Row.SideBySide

variable {leftWidth rightWidth index : Nat} {pair : Row × Row} {row : Row}

theorem field_left (hrow : SideBySide leftWidth rightWidth pair row) (hindex : index < leftWidth) :
    row.field index = pair.1.field index := by
  rw [field, List.getD_eq_getElem?_getD, hrow.left_eq index hindex, Option.getD_some]

theorem field_right (hrow : SideBySide leftWidth rightWidth pair row)
    (hindex : index < rightWidth) : row.field (leftWidth + index) = pair.2.field index := by
  rw [field, List.getD_eq_getElem?_getD, hrow.right_eq index hindex, Option.getD_some]

end Row.SideBySide

namespace Sheet

variable {sheet left right : Sheet} {column otherColumn value : String}

/-! ### Filters by position -/

/-- The sheet with the rows that have a value at a position. -/
def keeping (sheet : Sheet) (index : Nat) (value : String) : Sheet :=
  { sheet with rows := sheet.rows.filter fun row ↦ row.field index == value }

theorem filter_of_columnIndex {index : Nat} (hindex : sheet.columnIndex column = .ok index)
    (value : String) : sheet.filter ⟨column, value⟩ = .ok (sheet.keeping index value) := by
  rw [filter, hindex]
  rfl

theorem pairs_left (left right : Sheet) (index : Nat) (value column otherColumn : String) :
    (left.keeping index value).pairs right column otherColumn =
      (left.pairs right column otherColumn).filter fun pair ↦ pair.1.field index == value := by
  rw [pairs, pairs, keeping, product_filter_left, List.filter_comm]

theorem pairs_right (left right : Sheet) (index : Nat) (value column otherColumn : String) :
    left.pairs (right.keeping index value) column otherColumn =
      (left.pairs right column otherColumn).filter fun pair ↦ pair.2.field index == value := by
  rw [pairs, pairs, keeping, product_filter_right, List.filter_comm]

/-- A filter of joined rows that looks at the pairs only keeps the rows of the pairs it keeps. -/
theorem filter_map_merge {index : Nat} (pairs : List (Row × Row)) (field : Row × Row → String)
    (hfield : ∀ pair, (left.merge right pair).field index = field pair) :
    ((pairs.map (left.merge right)).filter fun row ↦ row.field index == value) =
      (pairs.filter fun pair ↦ field pair == value).map (left.merge right) := by
  rw [List.filter_map]
  refine congrArg (List.map _) (List.filter_congr fun pair _ ↦ ?_)
  rw [Function.comp_apply, hfield]

/-! ### Filters before and after a join -/

/-- A join can be filtered before or after, with one result: its name, its header and its rows in
their order. A left column is filtered by its name. A right column is filtered by the name that it
has in the join, that of the first column with the name if it is repeated. -/
theorem filter_join_comm (hcolumn : column ∈ left.header) (hother : otherColumn ∈ right.header)
    (value : String) :
    ∃ joined, left.join right column otherColumn = .ok joined ∧
      (∀ chosen ∈ left.header, ∃ kept result,
        left.filter ⟨chosen, value⟩ = .ok kept ∧
        kept.join right column otherColumn = .ok result ∧
        joined.filter ⟨chosen, value⟩ = .ok result) ∧
      ∀ chosen ∈ right.header, ∃ given kept result,
        joined.header[left.header.length + right.header.idxOf chosen]? = some given ∧
        right.filter ⟨chosen, value⟩ = .ok kept ∧
        left.join kept column otherColumn = .ok result ∧
        joined.filter ⟨given, value⟩ = .ok result := by
  refine ⟨_, join_eq_pairs hcolumn hother, fun chosen hchosen ↦ ?_, fun chosen hchosen ↦ ?_⟩
  · have hindex : left.header.idxOf chosen < left.header.length :=
      List.idxOf_lt_length_iff.mpr hchosen
    have hjoined : chosen ∈ joinHeader left.header right.header :=
      (isPrefix_joinHeader left.header right.header).subset hchosen
    refine ⟨_, _, filter_of_columnIndex (columnIndex_of_mem hchosen) value,
      join_eq_pairs hcolumn hother, ?_⟩
    rw [filter_of_columnIndex (columnIndex_of_mem hjoined) value]
    dsimp only [keeping]
    rw [idxOf_joinHeader hchosen, filter_map_merge _ (fun pair ↦ pair.1.field _) fun pair ↦
      (sideBySide_merge left right pair).field_left hindex, ← pairs_left]
    rfl
  · have hindex : right.header.idxOf chosen < right.header.length :=
      List.idxOf_lt_length_iff.mpr hchosen
    obtain ⟨placed, later, hheader, hplaced, -⟩ :=
      exists_joinHeader_eq left.header (List.getElem?_idxOf hchosen)
    refine ⟨freshName placed chosen, _, _, ?_,
      filter_of_columnIndex (columnIndex_of_mem hchosen) value, join_eq_pairs hcolumn hother, ?_⟩
    · simp [hheader, ← hplaced]
    · rw [filter_of_columnIndex (columnIndex_of_header_eq hheader (freshName_notMem _ _)) value]
      dsimp only [keeping]
      rw [hplaced, filter_map_merge _ (fun pair ↦ pair.2.field _) fun pair ↦
        (sideBySide_merge left right pair).field_right hindex, ← pairs_right]
      rfl

/-- The rooms without a class are found in the join under another name, and the pupil without a
class stays with them. -/
theorem filter_join_comm_unevenPupils :
    "class" ∈ unevenPupils.header ∧ "class" ∈ unevenRooms.header ∧
      ∃ joined kept result, unevenPupils.join unevenRooms "class" "class" = .ok joined ∧
        joined.header[2 + unevenRooms.header.idxOf "class"]? = some "class_right" ∧
        unevenRooms.filter ⟨"class", ""⟩ = .ok kept ∧
        unevenPupils.join kept "class" "class" = .ok result ∧
        joined.filter ⟨"class_right", ""⟩ = .ok result ∧
        result.rows = [["Bob", "", "", ""]] := by
  have hcolumn : "class" ∈ unevenPupils.header := by decide
  have hother : "class" ∈ unevenRooms.header := by decide
  obtain ⟨joined, hjoined, -, hright⟩ := filter_join_comm hcolumn hother ""
  obtain ⟨given, kept, result, hgiven, hkept, hresult, hfiltered⟩ := hright "class" hother
  have hheader : unevenPupils.join unevenRooms "class" "class" = .ok joined → joined.header =
      ["name", "class", "class_right", "room"] := by
    rintro ⟨⟩
    decide
  have hname : given = "class_right" := by
    rw [hheader hjoined] at hgiven
    exact (Option.some.inj hgiven).symm
  have hrows : unevenRooms.filter ⟨"class", ""⟩ = .ok kept →
      unevenPupils.join kept "class" "class" = .ok result →
      result.rows = [["Bob", "", "", ""]] := by
    rintro ⟨⟩ ⟨⟩
    decide
  subst given
  exact ⟨hcolumn, hother, joined, kept, result, hjoined, hgiven, hkept, hresult, hfiltered,
    hrows hkept hresult⟩

end Sheet

end FlatTables
