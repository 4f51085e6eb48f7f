import FlatTables.Proofs.JoinedHeaders
import FlatTables.Proofs.NamedColumns
import FlatTables.Proofs.SoundTables
import Mathlib.Algebra.BigOperators.Group.Finset.Basic
import Mathlib.Data.Multiset.Bind

/-!
# Joined rows

A join has one row for each pair of a left and a right row with one value in the two columns, in the
order of the left rows and for each of these in the order of the right ones (`Sheet.pairs`). Its
rows are put together from the two of a pair, each fitted to its own header first, so that every
field stands under its own column however long the two rows are (`Sheet.sideBySide_merge`).

A value gives as many pairs as it has left rows times right rows (`Sheet.length_pairs`). With the
sides exchanged the same pairs come in another order, each turned around (`Sheet.perm_pairs`). This
makes the statement about the join, `Sheet.join_pairs`.
-/

set_option autoImplicit false
set_option relaxedAutoImplicit false

namespace FlatTables

namespace Row

/-! ### Fitted rows -/

/-- A fitted row has every field of its width, and it is that of the row. -/
theorem getElem?_fit (row : Row) {width index : Nat} (hindex : index < width) :
    (row.fit width)[index]? = some (row.field index) := by
  rw [fit, field, List.getD_eq_getElem?_getD]
  by_cases hlength : index < row.length
  · have htake : index < (row.take width).length := by
      rw [List.length_take]
      omega
    rw [List.getElem?_append_left htake, List.getElem?_take_of_lt hindex,
      List.getElem?_eq_getElem hlength, Option.getD_some]
  · have htake : (row.take width).length ≤ index := by
      rw [List.length_take]
      omega
    have hfilled : index - (row.take width).length < width - row.length := by
      rw [List.length_take]
      omega
    rw [List.getElem?_append_right htake, List.getElem?_replicate, if_pos hfilled,
      List.getElem?_eq_none (Nat.not_lt.mp hlength), Option.getD_none]

/-- A row that has the fields of two rows side by side, as many of each as a width says. Fields
that a row is too short for are empty, and those beyond its width are left out. -/
structure SideBySide (leftWidth rightWidth : Nat) (pair : Row × Row) (row : Row) : Prop where
  length_eq : row.length = leftWidth + rightWidth
  left_eq : ∀ index < leftWidth, row[index]? = some (pair.1.field index)
  right_eq : ∀ index < rightWidth, row[leftWidth + index]? = some (pair.2.field index)

/-- The row with its first fields, as many as a width says, put behind the others. -/
def exchanged (width : Nat) (row : Row) : Row :=
  row.drop width ++ row.take width

end Row

namespace Sheet

/-! ### Pairs -/

/-- The values of the rows in a column. -/
def values (sheet : Sheet) (column : String) : List String :=
  sheet.rows.map fun row ↦ row.valueIn sheet.header column

/-- The pairs of a left and a right row with one value in the two columns, in left-major order. -/
def pairs (left right : Sheet) (column otherColumn : String) : List (Row × Row) :=
  (left.rows.product right.rows).filter fun pair ↦
    pair.1.valueIn left.header column = pair.2.valueIn right.header otherColumn

/-- The row of a join that a pair makes. -/
def merge (left right : Sheet) (pair : Row × Row) : Row :=
  pair.1.fit left.header.length ++ pair.2.fit right.header.length

variable {left right : Sheet} {column otherColumn : String}

theorem join_eq_pairs (hcolumn : column ∈ left.header) (hother : otherColumn ∈ right.header) :
    left.join right column otherColumn = .ok {
      name := left.name ++ " JOIN " ++ right.name
      header := joinHeader left.header right.header
      rows := (left.pairs right column otherColumn).map (left.merge right) } :=
  join_eq hcolumn hother

theorem sideBySide_merge (left right : Sheet) (pair : Row × Row) :
    Row.SideBySide left.header.length right.header.length pair (left.merge right pair) where
  length_eq := by
    rw [merge, List.length_append, Row.length_fit, Row.length_fit]
  left_eq index hindex := by
    rw [merge, List.getElem?_append_left (by rwa [Row.length_fit]), Row.getElem?_fit _ hindex]
  right_eq index hindex := by
    have hwidth : (pair.1.fit left.header.length).length ≤ left.header.length + index := by
      rw [Row.length_fit]
      exact Nat.le_add_right _ _
    rw [merge, List.getElem?_append_right hwidth, Row.length_fit, Nat.add_sub_cancel_left,
      Row.getElem?_fit _ hindex]

/-! ### The number of pairs -/

/-- The pairs, counted by their values. -/
theorem length_pairs (left right : Sheet) (column otherColumn : String) :
    (left.pairs right column otherColumn).length =
      ∑ value ∈ (left.values column).toFinset,
        (left.values column).count value * (right.values otherColumn).count value := by
  have hrow : ∀ row : Row,
      (right.rows.map (Prod.mk row)).countP (fun pair ↦
          pair.1.valueIn left.header column = pair.2.valueIn right.header otherColumn) =
        (right.values otherColumn).count (row.valueIn left.header column) := by
    intro row
    rw [values, List.count_eq_countP, List.countP_map, List.countP_map]
    refine List.countP_congr fun other _ ↦ ?_
    simp only [Function.comp_apply, decide_eq_true_eq, beq_iff_eq]
    exact eq_comm
  have hvalues : (left.values column).map (fun value ↦ (right.values otherColumn).count value) =
      left.rows.map fun row ↦
        (right.values otherColumn).count (row.valueIn left.header column) :=
    List.map_map
  calc (left.pairs right column otherColumn).length
      = ((left.values column).map fun value ↦ (right.values otherColumn).count value).sum := by
        rw [hvalues, pairs, ← List.countP_eq_length_filter, List.product, List.countP_flatMap]
        exact congrArg List.sum (List.map_congr_left fun row _ ↦ hrow row)
    _ = _ := by
        rw [Finset.sum_list_map_count]
        exact Finset.sum_congr rfl fun value _ ↦ Nat.nsmul_eq_mul _ _

/-! ### Sides exchanged -/

/-- The other way around a join has the same pairs in another order, each of them turned. -/
theorem perm_pairs (left right : Sheet) (column otherColumn : String) :
    (right.pairs left otherColumn column).Perm
      ((left.pairs right column otherColumn).map Prod.swap) := by
  have hproduct := Multiset.map_swap_product (left.rows : Multiset Row) (right.rows : Multiset Row)
  rw [Multiset.coe_product, Multiset.coe_product, Multiset.map_coe] at hproduct
  have hturned : (right.rows.product left.rows).Perm
      ((left.rows.product right.rows).map Prod.swap) := Multiset.coe_eq_coe.mp hproduct.symm
  refine (hturned.filter _).trans (.of_eq ?_)
  rw [List.filter_map, pairs]
  refine congrArg (List.map _) (List.filter_congr fun pair _ ↦ ?_)
  exact decide_eq_decide.mpr eq_comm

theorem exchanged_merge (left right : Sheet) (pair : Row × Row) :
    (left.merge right pair).exchanged left.header.length = right.merge left pair.swap := by
  rw [Row.exchanged, merge, List.drop_left' (Row.length_fit _ _),
    List.take_left' (Row.length_fit _ _)]
  rfl

/-! ### The join -/

/-- What a join of two columns is, however long the rows are. It has one row for each pair of a left
and a right row with one value in the two columns, in left-major order: as many as the values have
left rows times right rows. A row is as wide as the header of the join, with the fields of the left
row under the left columns and those of the right row under the right ones. The join the other way
around has the same rows in some order, with the two parts of each exchanged. -/
theorem join_pairs (hcolumn : column ∈ left.header) (hother : otherColumn ∈ right.header) :
    ∃ joined turned, left.join right column otherColumn = .ok joined ∧
      right.join left otherColumn column = .ok turned ∧
      joined.header.length = left.header.length + right.header.length ∧
      List.Forall₂ (Row.SideBySide left.header.length right.header.length)
        (left.pairs right column otherColumn) joined.rows ∧
      joined.rows.length = ∑ value ∈ (left.values column).toFinset,
        (left.values column).count value * (right.values otherColumn).count value ∧
      turned.rows.Perm (joined.rows.map (Row.exchanged left.header.length)) := by
  refine ⟨_, _, join_eq_pairs hcolumn hother, join_eq_pairs hother hcolumn,
    length_joinHeader _ _, ?_, ?_, ?_⟩
  · exact List.forall₂_map_right_iff.mpr
      (List.forall₂_same.mpr fun pair _ ↦ sideBySide_merge left right pair)
  · rw [List.length_map, length_pairs]
  · have hexchanged : ((left.pairs right column otherColumn).map (left.merge right)).map
          (Row.exchanged left.header.length) =
        ((left.pairs right column otherColumn).map Prod.swap).map (right.merge left) := by
      rw [List.map_map, List.map_map]
      exact List.map_congr_left fun pair _ ↦ exchanged_merge left right pair
    rw [hexchanged]
    exact (perm_pairs left right column otherColumn).map _

/-- Rows with a class, which one row lacks, and one row that is longer than the header. -/
def unevenPupils : Sheet :=
  ⟨"pupils", ["name", "class"], [["Ada", "b"], ["Bob"], ["Cid", "b", "late"], ["Dan", "c"]]⟩

/-- Classes with their rooms. The last row has nothing at all. -/
def unevenRooms : Sheet :=
  ⟨"rooms", ["class", "room"], [["b", "1"], ["b"], ["a", "2"], []]⟩

/-- The pupil without a class goes with the room without a class, and each pupil of a class that is
listed twice comes twice. -/
theorem join_pairs_unevenPupils :
    "class" ∈ unevenPupils.header ∧ "class" ∈ unevenRooms.header ∧
      ∃ joined turned, unevenPupils.join unevenRooms "class" "class" = .ok joined ∧
        unevenRooms.join unevenPupils "class" "class" = .ok turned ∧
        List.Forall₂ (Row.SideBySide 2 2)
          [(["Ada", "b"], ["b", "1"]), (["Ada", "b"], ["b"]), (["Bob"], []),
            (["Cid", "b", "late"], ["b", "1"]), (["Cid", "b", "late"], ["b"])] joined.rows ∧
        joined.rows.length = 2 * 2 + 1 * 1 + 1 * 0 ∧
        turned.rows.Perm (joined.rows.map (Row.exchanged 2)) := by
  have hcolumn : "class" ∈ unevenPupils.header := by decide
  have hother : "class" ∈ unevenRooms.header := by decide
  obtain ⟨joined, turned, hjoined, hturned, -, hrows, -, hperm⟩ := join_pairs hcolumn hother
  have hpairs : unevenPupils.pairs unevenRooms "class" "class" =
      [(["Ada", "b"], ["b", "1"]), (["Ada", "b"], ["b"]), (["Bob"], []),
        (["Cid", "b", "late"], ["b", "1"]), (["Cid", "b", "late"], ["b"])] := by decide
  rw [hpairs] at hrows
  exact ⟨hcolumn, hother, joined, turned, hjoined, hturned, hrows, hrows.length_eq.symm, hperm⟩

end Sheet

end FlatTables
