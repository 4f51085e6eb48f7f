import FlatTables.Proofs.NumeralOrder
import FlatTables.Sheet.Basic
import Mathlib

/-!
# The order of rows

Every field has a place (`fieldPlace`): integers come first, by value, then other texts, by code
points, and empty fields last. The keys that rows are ordered by compare as these places do
(`SortKey.PlacedAt.compares`), and a missing field has the place of an empty one.

Many rows may have one place. A list is put in stable order if its places ascend and the items at
each place stand as they stood before (`StablyAscending`); there is one such list only
(`StablyAscending.eq`). The ascending order of rows is of this kind
(`Sheet.stablyAscending_sortRows`). In descending order the rows with a field are turned around as a
whole, and the others stay behind them as they were (`Sheet.sortRows_descending`). In both
directions rows may be left out, or cut down to some fields, before they are ordered or after
(`Sheet.sortRows_filterMap`).
-/

set_option autoImplicit false
set_option relaxedAutoImplicit false

namespace FlatTables

/-! ### Stable orders -/

/-- A filter that cannot tell an item from what it is changed to may come before or after. -/
theorem filter_filterMap_of_agree {α γ : Type} {image : α → Option γ} {keep : γ → Bool}
    {keepItem : α → Bool}
    (hagree : ∀ item result, image item = some result → keep result = keepItem item)
    (items : List α) :
    (items.filterMap image).filter keep = (items.filter keepItem).filterMap image := by
  rw [List.filter_filterMap, List.filterMap_filter]
  refine List.filterMap_congr fun item _ ↦ ?_
  cases himage : image item with
  | none => simp
  | some result => simp [hagree item result himage, Option.filter]

/-- Items in ascending order of their places, those at one place in the order that they had. -/
structure StablyAscending {α β : Type} [LinearOrder β] (place : α → β) (items arranged : List α) :
    Prop where
  ascending : arranged.Pairwise fun first second ↦ place first ≤ place second
  stable : ∀ p, (arranged.filter fun item ↦ place item = p) = items.filter fun item ↦ place item = p

namespace StablyAscending

variable {α β : Type} [LinearOrder β] {place : α → β} {items arranged other : List α}

theorem mem_iff (hstable : StablyAscending place items arranged) (item : α) :
    item ∈ arranged ↔ item ∈ items := by
  have hplace := hstable.stable (place item)
  constructor
  · intro hitem
    have hkept : item ∈ arranged.filter fun other ↦ place other = place item :=
      List.mem_filter.mpr ⟨hitem, by simp⟩
    rw [hplace] at hkept
    exact List.mem_of_mem_filter hkept
  · intro hitem
    have hkept : item ∈ items.filter fun other ↦ place other = place item :=
      List.mem_filter.mpr ⟨hitem, by simp⟩
    rw [← hplace] at hkept
    exact List.mem_of_mem_filter hkept

/-- It is enough to look at the places of the items. -/
theorem iff_of_items :
    StablyAscending place items arranged ↔
      (arranged.Pairwise fun first second ↦ place first ≤ place second) ∧
        ∀ item ∈ arranged ++ items, (arranged.filter fun other ↦ place other = place item) =
          items.filter fun other ↦ place other = place item := by
  constructor
  · exact fun hstable ↦ ⟨hstable.ascending, fun item _ ↦ hstable.stable (place item)⟩
  · rintro ⟨hascending, hitems⟩
    refine ⟨hascending, fun p ↦ ?_⟩
    by_cases hp : ∃ item ∈ arranged ++ items, place item = p
    · obtain ⟨item, hitem, rfl⟩ := hp
      exact hitems item hitem
    · have hnone : ∀ item ∈ arranged ++ items, place item ≠ p := fun item hitem hplace ↦
        hp ⟨item, hitem, hplace⟩
      have harranged : (arranged.filter fun item ↦ place item = p) = [] :=
        List.filter_eq_nil_iff.mpr fun item hitem ↦ by
          simpa using hnone item (List.mem_append_left _ hitem)
      have hothers : (items.filter fun item ↦ place item = p) = [] :=
        List.filter_eq_nil_iff.mpr fun item hitem ↦ by
          simpa using hnone item (List.mem_append_right _ hitem)
      rw [harranged, hothers]

instance [DecidableEq α] : Decidable (StablyAscending place items arranged) :=
  decidable_of_iff _ iff_of_items.symm

/-- The first item of an ascending list is nowhere behind an item of the list. -/
theorem place_head_le {first : α} {rest : List α}
    (hascending : (first :: rest).Pairwise fun first second ↦ place first ≤ place second)
    {item : α} (hitem : item ∈ first :: rest) : place first ≤ place item := by
  rcases List.mem_cons.mp hitem with rfl | hitem
  · exact le_refl _
  · exact (List.pairwise_cons.mp hascending).1 item hitem

/-- Two ascending lists with the same items at each place, in the same order, are equal. -/
theorem eq_of_filter_eq (arranged : List α) :
    ∀ {other : List α}, (arranged.Pairwise fun first second ↦ place first ≤ place second) →
      (other.Pairwise fun first second ↦ place first ≤ place second) →
        (∀ p, (arranged.filter fun item ↦ place item = p) =
          other.filter fun item ↦ place item = p) → arranged = other := by
  induction arranged with
  | nil =>
    intro other _ _ hsame
    cases other with
    | nil => rfl
    | cons second rest =>
      have hnone := hsame (place second)
      rw [List.filter_nil, List.filter_cons_of_pos (by simp)] at hnone
      cases hnone
  | cons first arranged ih =>
    intro other harranged hother hsame
    have hstable : StablyAscending place other (first :: arranged) := ⟨harranged, hsame⟩
    cases other with
    | nil => exact absurd ((hstable.mem_iff first).mp List.mem_cons_self) List.not_mem_nil
    | cons second other =>
      have hplace : place first = place second :=
        le_antisymm
          (place_head_le harranged ((hstable.mem_iff second).mpr List.mem_cons_self))
          (place_head_le hother ((hstable.mem_iff first).mp List.mem_cons_self))
      have hheads := hsame (place first)
      rw [List.filter_cons_of_pos (by simp), List.filter_cons_of_pos (by simp [hplace])] at hheads
      obtain ⟨rfl, -⟩ := List.cons_eq_cons.mp hheads
      have hrest : ∀ p, (arranged.filter fun item ↦ place item = p) =
          other.filter fun item ↦ place item = p := by
        intro p
        have hboth := hsame p
        by_cases hp : place first = p
        · rw [List.filter_cons_of_pos (by simpa using hp),
            List.filter_cons_of_pos (by simpa using hp)] at hboth
          exact (List.cons_eq_cons.mp hboth).2
        · rwa [List.filter_cons_of_neg (by simpa using hp),
            List.filter_cons_of_neg (by simpa using hp)] at hboth
      rw [ih (List.pairwise_cons.mp harranged).2 (List.pairwise_cons.mp hother).2 hrest]

/-- There is one stable order only. -/
theorem eq (hstable : StablyAscending place items arranged)
    (hother : StablyAscending place items other) : other = arranged :=
  eq_of_filter_eq other hother.ascending hstable.ascending fun p ↦
    (hother.stable p).trans (hstable.stable p).symm

/-- A stable sort by places. -/
theorem mergeSort {le : α → α → Bool}
    (hle : ∀ first second, le first second = true ↔ place first ≤ place second) (items : List α) :
    StablyAscending place items (items.mergeSort le) := by
  have htrans : ∀ first second third, le first second = true → le second third = true →
      le first third = true := by
    intro first second third hfirst hsecond
    exact (hle _ _).mpr (le_trans ((hle _ _).mp hfirst) ((hle _ _).mp hsecond))
  have htotal : ∀ first second, (le first second || le second first) = true := by
    intro first second
    rw [Bool.or_eq_true, hle, hle]
    exact le_total _ _
  have hsorted := List.pairwise_mergeSort htrans htotal items
  refine ⟨hsorted.imp fun h ↦ (hle _ _).mp h, fun p ↦ ?_⟩
  -- The items at `p` are in order already, so the sort keeps them as a sublist, and it adds none.
  have hlevel : (items.filter fun item ↦ place item = p).Pairwise fun first second ↦
      le first second = true := by
    refine List.pairwise_of_forall_mem_list fun first hfirst second hsecond ↦ ?_
    have hfirstPlace : place first = p := by simpa using (List.mem_filter.mp hfirst).2
    have hsecondPlace : place second = p := by simpa using (List.mem_filter.mp hsecond).2
    rw [hle, hfirstPlace, hsecondPlace]
  have hsublist := (List.sublist_mergeSort htrans htotal hlevel
    (List.filter_sublist (l := items))).filter fun item ↦ place item = p
  rw [List.filter_filter] at hsublist
  simp only [Bool.and_self] at hsublist
  have hlength := ((List.mergeSort_perm items le).filter fun item ↦ place item = p).length_eq
  exact (hsublist.eq_of_length hlength.symm).symm

/-- Items at the greatest place may be put behind the others without looking at them. -/
theorem append {greatest : β} (hgreatest : ∀ item, place item ≤ greatest)
    (hsorted : StablyAscending place (items.filter fun item ↦ place item ≠ greatest) arranged) :
    StablyAscending place items
      (arranged ++ items.filter fun item ↦ place item = greatest) := by
  refine ⟨List.pairwise_append.mpr ⟨hsorted.ascending, ?_, ?_⟩, fun p ↦ ?_⟩
  · refine List.pairwise_of_forall_mem_list fun first _ second hsecond ↦ ?_
    have hsecondPlace : place second = greatest := by simpa using (List.mem_filter.mp hsecond).2
    rw [hsecondPlace]
    exact hgreatest first
  · intro first _ second hsecond
    have hsecondPlace : place second = greatest := by simpa using (List.mem_filter.mp hsecond).2
    rw [hsecondPlace]
    exact hgreatest first
  · rw [List.filter_append, hsorted.stable p, List.filter_filter, List.filter_filter]
    by_cases hp : p = greatest
    · have hnone : (items.filter fun item ↦
          decide (place item = p) && decide (place item ≠ greatest)) = [] := by
        refine List.filter_eq_nil_iff.mpr fun item _ ↦ ?_
        simp [hp]
      rw [hnone, List.nil_append]
      refine List.filter_congr fun item _ ↦ ?_
      simp [hp]
    · have hother : ∀ item, place item = p → place item ≠ greatest :=
        fun item hplace ↦ hplace ▸ hp
      have hnone : (items.filter fun item ↦
          decide (place item = p) && decide (place item = greatest)) = [] := by
        refine List.filter_eq_nil_iff.mpr fun item _ ↦ ?_
        simpa using hother item
      rw [hnone, List.append_nil]
      refine List.filter_congr fun item _ ↦ ?_
      simpa using hother item

/-- Leaving items out, and changing the others to what has the same place, keeps a stable order. -/
theorem filterMap {γ : Type} {image : α → Option γ} {imagePlace : γ → β}
    (himage : ∀ item result, image item = some result → imagePlace result = place item)
    (hstable : StablyAscending place items arranged) :
    StablyAscending imagePlace (items.filterMap image) (arranged.filterMap image) := by
  constructor
  · refine List.pairwise_filterMap.mpr (hstable.ascending.imp ?_)
    intro first second hle firstResult hfirst secondResult hsecond
    rwa [himage first firstResult hfirst, himage second secondResult hsecond]
  · intro p
    have hagree : ∀ item result, image item = some result →
        decide (imagePlace result = p) = decide (place item = p) :=
      fun item result hresult ↦ by rw [himage item result hresult]
    rw [filter_filterMap_of_agree hagree, filter_filterMap_of_agree hagree, hstable.stable p]

end StablyAscending

/-! ### The places of fields -/

/-- Where a field stands in ascending order: integers first, then other texts, and empty fields
behind all of them. -/
def fieldPlace (field : String) : WithTop (Int ⊕ₗ String) :=
  if field = "" then ⊤
  else
    match integer? field with
    | some number => ↑(toLex (Sum.inl number : Int ⊕ String))
    | none => ↑(toLex (Sum.inr field : Int ⊕ String))

theorem fieldPlace_eq_top_iff (field : String) : fieldPlace field = ⊤ ↔ field = "" := by
  unfold fieldPlace
  by_cases hfield : field = ""
  · rw [if_pos hfield]
    simp [hfield]
  · rw [if_neg hfield]
    cases integer? field with
    | none => simp [hfield]
    | some number => simp [hfield]

namespace SortKey

/-- A key and the place of the field that it was made for. -/
inductive PlacedAt : SortKey → WithTop (Int ⊕ₗ String) → Prop
  | number {numeral : Numeral} (hnormal : numeral.Normal) :
      PlacedAt (.number numeral) ↑(toLex (Sum.inl numeral.value : Int ⊕ String))
  | text (content : String) : PlacedAt (.text content) ↑(toLex (Sum.inr content : Int ⊕ String))
  | empty : PlacedAt .empty ⊤

/-- A missing field has the place of an empty one. -/
theorem placedAt_classify (field : Option String) :
    PlacedAt (classify field) (fieldPlace (field.getD "")) := by
  cases field with
  | none => exact .empty
  | some field =>
    rw [Option.getD_some, classify, fieldPlace]
    by_cases hempty : field = ""
    · rw [if_pos hempty, if_pos hempty]
      exact .empty
    · rw [if_neg hempty, if_neg hempty, ← Numeral.map_value_parse?]
      cases hparse : Numeral.parse? field with
      | none => exact .text field
      | some numeral => exact .number (Numeral.normal_of_parse? hparse)

/-- Keys compare as the places of their fields. -/
theorem PlacedAt.compares {left right : SortKey} {leftPlace rightPlace : WithTop (Int ⊕ₗ String)}
    (hleft : PlacedAt left leftPlace) (hright : PlacedAt right rightPlace) :
    (left.compare right).Compares leftPlace rightPlace := by
  cases hleft with
  | number hnormal =>
    cases hright with
    | number hother =>
      exact (WithTop.coe_strictMono.comp Sum.Lex.inl_strictMono).compares.mpr
        (Numeral.compares hnormal hother)
    | text other => exact WithTop.coe_lt_coe.mpr (Sum.Lex.inl_lt_inr _ _)
    | empty => exact WithTop.coe_lt_top _
  | text content =>
    cases hright with
    | number hother => exact WithTop.coe_lt_coe.mpr (Sum.Lex.inl_lt_inr _ _)
    | text other =>
      have hcontents : (compareOfLessAndEq content other).Compares content other :=
        (compare_iff content other).mp rfl
      exact (WithTop.coe_strictMono.comp Sum.Lex.inr_strictMono).compares.mpr hcontents
    | empty => exact WithTop.coe_lt_top _
  | empty =>
    cases hright with
    | number hother => exact WithTop.coe_lt_top _
    | text other => exact WithTop.coe_lt_top _
    | empty => rfl

theorem isEmpty_classify_iff (field : Option String) :
    (classify field).isEmpty = true ↔ field.getD "" = "" := by
  cases field with
  | none => simp [classify, isEmpty]
  | some field =>
    rw [Option.getD_some, classify]
    by_cases hempty : field = ""
    · simp [hempty, isEmpty]
    · rw [if_neg hempty]
      cases Numeral.parse? field with
      | none => simp [hempty, isEmpty]
      | some numeral => simp [hempty, isEmpty]

end SortKey

/-! ### Ordered rows -/

namespace Sheet

theorem placedAt_key (row : Row) (index : Nat) :
    SortKey.PlacedAt (row.key index) (fieldPlace (row.field index)) := by
  have hplaced := SortKey.placedAt_classify row[index]?
  rwa [← List.getD_eq_getElem?_getD] at hplaced

theorem precedes_iff (index : Nat) (first second : Row) :
    precedes index first second = true ↔
      fieldPlace (first.field index) ≤ fieldPlace (second.field index) := by
  have hcompares := (placedAt_key first index).compares (placedAt_key second index)
  rw [← hcompares.ne_gt, precedes, bne_iff_ne]

theorem isEmpty_key (row : Row) (index : Nat) :
    (row.key index).isEmpty = decide (row.field index = "") := by
  have hempty := SortKey.isEmpty_classify_iff row[index]?
  rw [← List.getD_eq_getElem?_getD] at hempty
  exact Bool.eq_iff_iff.mpr (hempty.trans decide_eq_true_iff.symm)

/-- The rows with a field at a position, stably sorted by it. -/
def valuedRows (index : Nat) (rows : List Row) : List Row :=
  (rows.filter fun row ↦ row.field index ≠ "").mergeSort (precedes index)

theorem sortRows_eq (index : Nat) (direction : Direction) (rows : List Row) :
    sortRows index direction rows =
      (match direction with
        | .ascending => valuedRows index rows
        | .descending => (valuedRows index rows).reverse) ++
        rows.filter fun row ↦ row.field index = "" := by
  cases direction <;>
    simp only [sortRows, valuedRows, List.partition_eq_filter_filter, isEmpty_key,
      Function.comp_def, ne_eq, decide_not]

/-- Ordering neither loses nor adds a row. -/
theorem sortRows_perm (index : Nat) (direction : Direction) (rows : List Row) :
    (sortRows index direction rows).Perm rows := by
  have hvalued : (valuedRows index rows).Perm (rows.filter fun row ↦ row.field index ≠ "") :=
    List.mergeSort_perm _ _
  have hparts : ((rows.filter fun row ↦ row.field index ≠ "") ++
      rows.filter fun row ↦ row.field index = "").Perm rows := by
    simpa using List.filter_append_perm (fun row : Row ↦ decide (row.field index ≠ "")) rows
  rw [sortRows_eq]
  cases direction with
  | ascending => exact (hvalued.append_right _).trans hparts
  | descending =>
    have hreversed := (List.reverse_perm (valuedRows index rows)).trans hvalued
    exact (hreversed.append_right _).trans hparts

/-- Rows in ascending order are in stable order by the places of their fields. -/
theorem stablyAscending_sortRows (index : Nat) (rows : List Row) :
    StablyAscending (fun row ↦ fieldPlace (row.field index)) rows
      (sortRows index .ascending rows) := by
  have hvalued := StablyAscending.mergeSort (precedes_iff index)
    (rows.filter fun row ↦ fieldPlace (row.field index) ≠ ⊤)
  have hplaced := hvalued.append fun row ↦ le_top
  rw [sortRows_eq]
  unfold valuedRows
  simpa only [ne_eq, fieldPlace_eq_top_iff] using hplaced

/-- Rows in descending order are those in ascending order with the ones that have a field turned
around. -/
theorem sortRows_descending (index : Nat) (rows : List Row) :
    sortRows index .descending rows =
      ((sortRows index .ascending rows).filter fun row ↦ row.field index ≠ "").reverse ++
        rows.filter fun row ↦ row.field index = "" := by
  have hvalued : (valuedRows index rows).filter (fun row ↦ row.field index ≠ "") =
      valuedRows index rows := by
    refine List.filter_eq_self.mpr fun row hrow ↦ ?_
    exact (List.mem_filter.mp (List.mem_mergeSort.mp hrow)).2
  have hempty : ((rows.filter fun row ↦ row.field index = "").filter
      fun row ↦ row.field index ≠ "") = [] := by
    refine List.filter_eq_nil_iff.mpr fun row hrow ↦ ?_
    simpa using (List.mem_filter.mp hrow).2
  rw [sortRows_eq, sortRows_eq]
  simp only [List.filter_append, hvalued, hempty, List.append_nil]

/-- Rows may be left out, and changed to rows with the same field at some position, before they are
ordered or after. -/
theorem sortRows_filterMap {index other : Nat} {image : Row → Option Row}
    (hfield : ∀ row result, image row = some result → result.field other = row.field index)
    (direction : Direction) (rows : List Row) :
    sortRows other direction (rows.filterMap image) =
      (sortRows index direction rows).filterMap image := by
  have hascending : sortRows other .ascending (rows.filterMap image) =
      (sortRows index .ascending rows).filterMap image := by
    have hplaces : ∀ row result, image row = some result →
        fieldPlace (result.field other) = fieldPlace (row.field index) :=
      fun row result hresult ↦ congrArg fieldPlace (hfield row result hresult)
    have hstable : StablyAscending (fun row ↦ fieldPlace (row.field other))
        (rows.filterMap image) ((sortRows index .ascending rows).filterMap image) :=
      (stablyAscending_sortRows index rows).filterMap hplaces
    exact hstable.eq (stablyAscending_sortRows other (rows.filterMap image))
  cases direction with
  | ascending => exact hascending
  | descending =>
    have hfilled : ∀ row result, image row = some result →
        decide (result.field other ≠ "") = decide (row.field index ≠ "") :=
      fun row result hresult ↦ by rw [hfield row result hresult]
    have hempty : ∀ row result, image row = some result →
        decide (result.field other = "") = decide (row.field index = "") :=
      fun row result hresult ↦ by rw [hfield row result hresult]
    rw [sortRows_descending, sortRows_descending, hascending, filter_filterMap_of_agree hfilled,
      filter_filterMap_of_agree hempty, List.filterMap_append, List.filterMap_reverse]

end Sheet

end FlatTables
