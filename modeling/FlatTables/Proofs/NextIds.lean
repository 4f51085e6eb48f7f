import FlatTables.Proofs.Changes
import FlatTables.Proofs.NamedColumns
import FlatTables.Proofs.NumeralOrder

/-!
# The next id

An insert takes the greatest numeral among the ids and adds one. Told in integers, it takes the
greatest integer among those that the ids of the table stand for, and the one after it, or one if no
id stands for an integer (`Table.nextId?_eq`). Both have to be 64-bit integers, however long the
digits of an id are.

So the new id is greater than every integer among the ids (`lt_of_mem_of_following?`). As a text it
is none of them either, whatever signs and zeros they begin with, since it reads back as the integer
that was printed (`integer?_toString`).
-/

set_option autoImplicit false
set_option relaxedAutoImplicit false

namespace FlatTables

/-! ### Numerals as integers -/

namespace Numeral

variable {numeral : Numeral}

theorem natAbs_value (numeral : Numeral) :
    numeral.value.natAbs = Nat.ofDigitChars 10 numeral.digits 0 := by
  by_cases hnegative : numeral.negative = true
  · simp [value_of_negative_eq_true hnegative]
  · simp [value_of_negative_eq_false (Bool.not_eq_true _ ▸ hnegative)]

/-- A numeral of more than nineteen digits is out of the range of 64-bit integers, so its value
decides alone. -/
theorem toInt64?_eq (hnormal : numeral.Normal) : numeral.toInt64? = inInt64? numeral.value := by
  unfold toInt64?
  by_cases hlong : numeral.digits.length > 19
  · have hgreat : 10 ^ 19 ≤ numeral.value.natAbs := by
      rw [natAbs_value]
      cases hdigits : numeral.digits with
      | nil => simp [hdigits] at hlong
      | cons c digits =>
        have hsignificant := hnormal.significant
        rw [hdigits] at hsignificant hlong
        have hlength : 19 ≤ digits.length := Nat.le_of_lt_succ hlong
        calc 10 ^ 19 ≤ 10 ^ digits.length := Nat.pow_le_pow_right (by omega) hlength
          _ ≤ Nat.ofDigitChars 10 (c :: digits) 0 := pow_le_ofDigitChars hsignificant
    have hrange : ¬ (minInt64 ≤ numeral.value ∧ numeral.value ≤ maxInt64) := by
      unfold minInt64 maxInt64
      omega
    rw [if_pos hlong, inInt64?, if_neg hrange]
  · rw [if_neg hlong]

end Numeral

/-! ### The greatest integer -/

namespace Table

open Numeral

/-- Of two numerals the one that is kept stands for the greater integer. -/
theorem value_greater {best numeral : Numeral} (hbest : best.Normal) (hnumeral : numeral.Normal) :
    (if best.compare numeral == .gt then best else numeral).value =
      max best.value numeral.value := by
  have hcompares := compares hbest hnumeral
  cases hcompare : best.compare numeral with
  | lt =>
    rw [hcompare] at hcompares
    exact (max_eq_right (le_of_lt hcompares)).symm
  | eq =>
    rw [hcompare] at hcompares
    exact (max_eq_right (le_of_eq hcompares)).symm
  | gt =>
    rw [hcompare] at hcompares
    exact (max_eq_left (le_of_lt hcompares)).symm

theorem greatest?_cons_cons (first second : Numeral) (rest : List Numeral) :
    greatest? (first :: second :: rest) =
      greatest? ((if first.compare second == .gt then first else second) :: rest) := by
  simp only [greatest?, List.foldl_cons, apply_ite some]

/-- The greatest numeral is one of the list. -/
theorem mem_of_greatest? {numerals : List Numeral} {greatest : Numeral}
    (hgreatest : greatest? numerals = some greatest) : greatest ∈ numerals := by
  cases numerals with
  | nil => cases hgreatest
  | cons best rest =>
    induction rest generalizing best with
    | nil =>
      obtain rfl := Option.some.inj hgreatest
      exact List.mem_singleton_self _
    | cons numeral rest ih =>
      rw [greatest?_cons_cons] at hgreatest
      have hmem := ih _ hgreatest
      by_cases hgreater : (best.compare numeral == .gt) = true
      · rw [if_pos hgreater] at hmem
        simp only [List.mem_cons] at hmem ⊢
        tauto
      · rw [if_neg hgreater] at hmem
        exact List.mem_cons_of_mem _ hmem

/-- The greatest numeral of a list stands for the greatest integer. -/
theorem map_value_greatest? {numerals : List Numeral}
    (hnormal : ∀ numeral ∈ numerals, numeral.Normal) :
    (greatest? numerals).map value = (numerals.map value).max? := by
  cases numerals with
  | nil => rfl
  | cons best rest =>
    induction rest generalizing best with
    | nil => rfl
    | cons numeral rest ih =>
      obtain ⟨hbest, hothers⟩ := List.forall_mem_cons.mp hnormal
      obtain ⟨hnumeral, hrest⟩ := List.forall_mem_cons.mp hothers
      let kept := if best.compare numeral == .gt then best else numeral
      have hkept : kept.Normal := by
        by_cases hgreater : (best.compare numeral == .gt) = true <;> simpa [kept, hgreater]
      have hvalue : kept.value = max best.value numeral.value := value_greater hbest hnumeral
      rw [greatest?_cons_cons, ih kept (List.forall_mem_cons.mpr ⟨hkept, hrest⟩)]
      simp only [List.map_cons, List.max?_cons', List.foldl_cons, hvalue]

/-! ### The ids of a table -/

/-- The ids of the rows, in their order. -/
def ids (table : Table) : List String :=
  table.sheet.rows.map fun row ↦ row.valueIn table.sheet.header table.idColumn

/-- The integers that ids stand for; an id that is no numeral stands for none. -/
def idNumbers (table : Table) : List Int :=
  table.ids.filterMap integer?

end Table

/-- The integer after the greatest one of a list, or one for the empty list. The greatest integer
and the one after it have to be 64-bit integers. -/
def following? (numbers : List Int) : Option Int :=
  match numbers.max? with
  | none => some 1
  | some greatest => (inInt64? greatest).bind fun number ↦ inInt64? (number + 1)

namespace Table

open Numeral

variable {table : Table}

theorem map_value_idNumerals (hcolumn : table.idColumn ∈ table.sheet.header) :
    (table.idNumerals (table.sheet.header.idxOf table.idColumn)).map value = table.idNumbers := by
  unfold idNumerals idNumbers ids
  rw [List.map_filterMap, List.filterMap_map]
  refine List.filterMap_congr fun row _ ↦ ?_
  rw [Function.comp_apply, ← Row.field_idxOf hcolumn, ← Numeral.map_value_parse?, Row.field,
    List.getD_eq_getElem?_getD]
  cases row[table.sheet.header.idxOf table.idColumn]? with
  | none => rfl
  | some id => rfl

/-- The next id is the integer that follows those of the ids. -/
theorem nextId?_eq (hcolumn : table.idColumn ∈ table.sheet.header) :
    table.nextId? (table.sheet.header.idxOf table.idColumn) = following? table.idNumbers := by
  have hnormal : ∀ numeral ∈ table.idNumerals (table.sheet.header.idxOf table.idColumn),
      numeral.Normal := by
    intro numeral hnumeral
    obtain ⟨row, -, hparse⟩ := List.mem_filterMap.mp hnumeral
    obtain ⟨id, -, hid⟩ := Option.bind_eq_some_iff.mp hparse
    exact normal_of_parse? hid
  have hgreatest := map_value_greatest? hnormal
  rw [map_value_idNumerals hcolumn] at hgreatest
  unfold nextId? following?
  rw [← hgreatest]
  cases hfound : greatest? (table.idNumerals (table.sheet.header.idxOf table.idColumn)) with
  | none => rfl
  | some greatest =>
    have hkept := hnormal greatest (mem_of_greatest? hfound)
    simp only [Option.map_some, toInt64?_eq hkept]

end Table

/-! ### Ids that follow -/

section Following

variable {numbers : List Int} {greatest number next : Int}

theorem inInt64?_eq_some_iff {value kept : Int} :
    inInt64? value = some kept ↔ kept = value ∧ minInt64 ≤ value ∧ value ≤ maxInt64 := by
  unfold inInt64?
  by_cases hrange : minInt64 ≤ value ∧ value ≤ maxInt64
  · simp [hrange, eq_comm]
  · simp [hrange]

theorem following?_eq_some_iff_of_max? (hmax : numbers.max? = some greatest) :
    following? numbers = some next ↔
      -2 ^ 63 ≤ greatest ∧ greatest ≤ 2 ^ 63 - 2 ∧ next = greatest + 1 := by
  have hfollowing : following? numbers =
      (inInt64? greatest).bind fun number ↦ inInt64? (number + 1) := by
    rw [following?, hmax]
  rw [hfollowing, Option.bind_eq_some_iff]
  simp only [inInt64?_eq_some_iff, minInt64, maxInt64]
  constructor
  · rintro ⟨number, ⟨rfl, hleast, -⟩, rfl, -, hgreatest⟩
    omega
  · rintro ⟨hleast, hgreatest, rfl⟩
    exact ⟨greatest, ⟨rfl, by omega, by omega⟩, rfl, by omega, by omega⟩

/-- One for no integers, and otherwise one more than the greatest. -/
theorem following?_eq_some_iff :
    following? numbers = some next ↔
      (numbers = [] ∧ next = 1) ∨ ∃ greatest, numbers.max? = some greatest ∧
        -2 ^ 63 ≤ greatest ∧ greatest ≤ 2 ^ 63 - 2 ∧ next = greatest + 1 := by
  cases hmax : numbers.max? with
  | none =>
    obtain rfl := List.max?_eq_none_iff.mp hmax
    simp [following?, eq_comm]
  | some greatest =>
    have hne : numbers ≠ [] := by
      rintro rfl
      cases hmax
    simp [following?_eq_some_iff_of_max? hmax, hne]

theorem following?_eq_none_of_max? (hmax : numbers.max? = some greatest)
    (hrange : ¬ (-2 ^ 63 ≤ greatest ∧ greatest ≤ 2 ^ 63 - 2)) : following? numbers = none := by
  refine Option.eq_none_iff_forall_ne_some.mpr fun next hnext ↦ hrange ?_
  obtain ⟨hleast, hgreatest, -⟩ := (following?_eq_some_iff_of_max? hmax).mp hnext
  exact ⟨hleast, hgreatest⟩

/-- The integer that follows is greater than every one in the list. -/
theorem lt_of_mem_of_following? (hnext : following? numbers = some next)
    (hnumber : number ∈ numbers) : number < next := by
  rcases following?_eq_some_iff.mp hnext with ⟨rfl, -⟩ | ⟨greatest, hmax, -, -, rfl⟩
  · exact absurd hnumber List.not_mem_nil
  · have hbound : number ≤ greatest := (List.max?_le_iff hmax).mp le_rfl number hnumber
    exact Int.lt_add_one_of_le hbound

theorem notMem_of_following? (hnext : following? numbers = some next) : next ∉ numbers :=
  fun hmem ↦ lt_irrefl next (lt_of_mem_of_following? hnext hmem)

/-- Behind the integer that followed, the next one is one more. -/
theorem eq_of_following?_concat (hnext : following? numbers = some next)
    {after : Int} (hafter : following? (numbers ++ [next]) = some after) : after = next + 1 := by
  have hmax : (numbers ++ [next]).max? = some next := by
    refine List.max?_eq_some_iff.mpr ⟨by simp, fun number hnumber ↦ ?_⟩
    rcases List.mem_append.mp hnumber with hnumber | hnumber
    · exact le_of_lt (lt_of_mem_of_following? hnext hnumber)
    · exact le_of_eq (List.mem_singleton.mp hnumber)
  exact ((following?_eq_some_iff_of_max? hmax).mp hafter).2.2

end Following

/-! ### Printed integers -/

/-- A printed integer reads back. -/
theorem integer?_toString (number : Int) : integer? (toString number) = some number := by
  rw [integer?_eq_some_iff, Int.toString_eq_repr, Int.repr_eq_if]
  by_cases hnegative : 0 ≤ number
  · have htext := IntegerText.unsigned (decimalDigits_toDigits number.toNat)
    rw [Nat.ofDigitChars_ten_toDigits, Int.toNat_of_nonneg hnegative] at htext
    rwa [if_pos hnegative, Nat.repr_eq_ofList_toDigits, String.toList_ofList]
  · have htext := IntegerText.minus (decimalDigits_toDigits (-number).toNat)
    rw [Nat.ofDigitChars_ten_toDigits, Int.toNat_of_nonneg (by omega), neg_neg] at htext
    rwa [if_neg hnegative, Nat.repr_eq_ofList_toDigits, String.toList_append, String.toList_ofList,
      String.toList_ofList]

/-! ### The row with the next id -/

/-- The row with an id in its column, and with what a payload has in the others. -/
def Row.inserted (header : List String) (idColumn : String) (id : Int) (payload : Payload) : Row :=
  header.map fun column ↦ if column = idColumn then toString id else (payload.get? column).getD ""

theorem Row.valueIn_inserted {header : List String} {idColumn : String}
    (hcolumn : idColumn ∈ header) (id : Int) (payload : Payload) :
    (inserted header idColumn id payload).valueIn header idColumn = toString id := by
  rw [inserted, valueIn_map hcolumn, if_pos rfl]

namespace Table

variable {table changed : Table} {payload : Payload} {id : Int}

/-- A printed new id is none of the ids. -/
theorem toString_notMem_ids (hid : following? table.idNumbers = some id) :
    toString id ∉ table.ids := by
  intro hmem
  have hnumber : id ∈ table.idNumbers :=
    List.mem_filterMap.mpr ⟨toString id, hmem, integer?_toString id⟩
  exact notMem_of_following? hid hnumber

theorem newRow_eq {header : List String} {idColumn : String} (hnodup : header.Nodup)
    (hcolumn : idColumn ∈ header) (id : Int) (payload : Payload) :
    newRow header (header.idxOf idColumn) id payload =
      Row.inserted header idColumn id payload := by
  unfold newRow Row.inserted
  ext index : 1
  rw [List.getElem?_mapIdx, List.getElem?_map]
  by_cases hindex : index < header.length
  · have hplace : index = header.idxOf idColumn ↔ header[index] = idColumn := by
      constructor
      · rintro rfl
        exact List.getElem_idxOf hindex
      · rintro rfl
        exact (hnodup.idxOf_getElem index hindex).symm
    simp [hindex, hplace]
  · simp [hindex]

/-- An insert appends the row with the next id. -/
theorem changed_of_withInserted (hnodup : table.sheet.header.Nodup)
    (hinserted : table.withInserted payload = .ok (changed, id)) :
    table.idColumn ∈ table.sheet.header ∧ following? table.idNumbers = some id ∧
      changed = table.withRows
        (table.sheet.rows ++ [Row.inserted table.sheet.header table.idColumn id payload]) := by
  obtain ⟨idIndex, hindex, hnext, hchanged⟩ := withInserted_eq_ok hinserted
  obtain ⟨hcolumn, rfl⟩ := columnIndex_eq_ok_iff.mp hindex
  rw [nextId?_eq hcolumn] at hnext
  rw [newRow_eq hnodup hcolumn] at hchanged
  exact ⟨hcolumn, hnext, hchanged⟩

end Table

/-! ### Ids of many forms -/

/-- A disk with a table whose ids are a word, a negative number and padded and signed ones. -/
def oddIdsDisk : Disk :=
  { entries := [(["t.csv"], .file "id,name\nx,Ada\n-3,Bob\n007,Cid\n+6,Dan\n".toUTF8)] }

/-- This table. -/
def oddIdsTable : Table :=
  ⟨"./t.csv", ',', "id",
    ⟨"t", ["id", "name"], [["x", "Ada"], ["-3", "Bob"], ["007", "Cid"], ["+6", "Dan"]]⟩⟩

theorem load_oddIdsDisk :
    ((Table.loadNamed {} "t").run .empty oddIdsDisk).result = .ok oddIdsTable := rfl

end FlatTables
