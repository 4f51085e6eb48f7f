import FlatTables.Proofs.NamedChanges
import FlatTables.Proofs.RelationalAnswers

/-!
# The rows that a filter selects

Selects, updates and deletes look for the rows of a filter each in its own way, and find the same
ones (`Table.filters_agree`). The answer of a select of every column tells which rows of the table
these are: those whose records it has (`Table.positionsIn`). A delete with the same filter reports
how many they are and leaves exactly the others. An update with the same filter reports the same
number, gives these rows the values of its payload and leaves the others as they were; it decides on
the rows that it found, whatever it assigns to them.
-/

set_option autoImplicit false
set_option relaxedAutoImplicit false

namespace FlatTables

/-! ### Records and positions -/

/-- The record of a row in an answer that shows every column. -/
def Row.record (row : Row) (header : List String) : AnswerRow :=
  header.zip (row.map .text)

/-- Rows of the width of the header are told apart by their records. -/
theorem Row.record_inj {header : List String} {first second : Row}
    (hfirst : first.length = header.length) (hsecond : second.length = header.length) :
    first.record header = second.record header ↔ first = second := by
  constructor
  · intro hrecord
    have hvalues := congrArg (List.map Prod.snd) hrecord
    unfold record at hvalues
    rw [List.map_snd_zip (by simp [hfirst]), List.map_snd_zip (by simp [hsecond])] at hvalues
    exact List.map_injective_iff.mpr (fun _ _ htext ↦ FieldValue.text.inj htext) hvalues
  · rintro rfl
    rfl

/-- The positions of the rows of a table whose records an answer has. -/
def Table.positionsIn (table : Table) (answer : Answer) : List Nat :=
  (table.sheet.rows.zipIdx.filter fun entry ↦
    entry.1.record table.sheet.header ∈ answer.rows).map Prod.snd

/-- What is done with the rows of a property, numbered or not, is the same. -/
theorem map_filter_zipIdx {α : Type} (rows : List Row) (property : Row → Bool) (map : Row → α) :
    ((rows.zipIdx.filter fun entry ↦ property entry.1).map fun entry ↦ map entry.1) =
      (rows.filter property).map map := by
  have hrows := List.zipIdx_map_fst 0 rows
  calc ((rows.zipIdx.filter fun entry ↦ property entry.1).map fun entry ↦ map entry.1)
      = ((rows.zipIdx.map Prod.fst).filter property).map map := by
        rw [List.filter_map, List.map_map]
        rfl
    _ = (rows.filter property).map map := by rw [hrows]

/-! ### Selects of every column -/

namespace Query

/-- A select of every column of the rows of a filter. -/
def selectAll (name : String) (filter : Option Filter) : Query :=
  { operation := .select, table := some name, filter }

theorem result_selectAll {input : ByteArray} {config : Config} {disk : Disk} {name : String}
    {table : Table} {filter : Option Filter}
    (hload : ((Table.loadNamed config name).run input disk).result = .ok table)
    (hfilter : ∀ condition ∈ filter, condition.column ∈ table.sheet.header) :
    (((selectAll name filter).execute config).run input disk).result = .ok {
      operation := .select
      columns := table.sheet.header
      rows := (table.sheet.rows.filter fun row ↦ row.meets table.sheet.header filter).map fun row ↦
        row.record table.sheet.header
      affected := table.sheet.rows.countP fun row ↦ row.meets table.sheet.header filter } := by
  have hselect : (selectAll name filter).operation = .select := rfl
  have hsound := (Table.keptUnder_of_loadNamed hload).1.sound
  rw [(yields_loadNamed name).1] at hload
  let kept : Sheet := { table.sheet with
    rows := table.sheet.rows.filter fun row ↦ row.meets table.sheet.header filter }
  have hselected : (selectAll name filter).selected config disk = .ok (.ofSheet kept) :=
    selected_eq_ok rfl hload rfl (kept_eq hfilter) rfl
  have hrecords : kept.answerRows = kept.rows.map fun row ↦ row.record table.sheet.header := by
    refine List.map_congr_left fun row hrow ↦ ?_
    have hwidth := hsound.rows_length row (List.mem_of_mem_filter hrow)
    rw [Row.record, Row.fit_of_length_eq hwidth]
  have hcount : kept.rows.length =
      table.sheet.rows.countP fun row ↦ row.meets table.sheet.header filter :=
    List.countP_eq_length_filter.symm
  rw [(yields_execute hselect).1, hselected, Answer.ofSheet, hrecords, hcount]

end Query

/-! ### The rows that an answer has -/

namespace Table

variable {input : ByteArray} {config : Config} {disk : Disk} {name : String} {table : Table}
  {filter : Option Filter} {answer : Answer}

/-- The records of the rows of a property are those of no other rows. -/
theorem record_mem_map_filter_iff (hsound : table.Sound) (property : Row → Bool) {row : Row}
    (hrow : row ∈ table.sheet.rows) :
    row.record table.sheet.header ∈ (table.sheet.rows.filter property).map
      (fun row ↦ row.record table.sheet.header) ↔ property row = true := by
  have hwidths := hsound.rows_length
  constructor
  · intro hrecord
    obtain ⟨other, hother, hsame⟩ := List.mem_map.mp hrecord
    obtain ⟨hmem, hproperty⟩ := List.mem_filter.mp hother
    rwa [(Row.record_inj (hwidths other hmem) (hwidths row hrow)).mp hsame] at hproperty
  · exact fun hproperty ↦ List.mem_map_of_mem (List.mem_filter.mpr ⟨hrow, hproperty⟩)

section Positions

variable {property : Row → Bool} (hproperty : ∀ row ∈ table.sheet.rows,
  row.record table.sheet.header ∈ answer.rows ↔ property row = true)

include hproperty

/-- If the records of an answer are those of a property, the rows at its positions have it. -/
theorem mem_positionsIn_iff {entry : Row × Nat} (hentry : entry ∈ table.sheet.rows.zipIdx) :
    entry.2 ∈ table.positionsIn answer ↔ property entry.1 = true := by
  have hrow : entry.1 ∈ table.sheet.rows := List.fst_mem_of_mem_zipIdx hentry
  rw [← hproperty entry.1 hrow]
  constructor
  · intro hposition
    obtain ⟨other, hother, hsame⟩ := List.mem_map.mp hposition
    obtain ⟨hplaced, hrecord⟩ := List.mem_filter.mp hother
    have hrows : other.1 = entry.1 := by
      have hfirst := List.mem_zipIdx_iff_getElem?.mp hplaced
      have hsecond := List.mem_zipIdx_iff_getElem?.mp hentry
      rw [hsame, hsecond] at hfirst
      exact (Option.some.inj hfirst).symm
    rw [← hrows]
    simpa using hrecord
  · intro hrecord
    exact List.mem_map.mpr ⟨entry, List.mem_filter.mpr ⟨hentry, by simpa using hrecord⟩, rfl⟩

theorem length_positionsIn :
    (table.positionsIn answer).length = table.sheet.rows.countP property := by
  have hfilter : (table.sheet.rows.zipIdx.filter fun entry ↦
        entry.1.record table.sheet.header ∈ answer.rows) =
      table.sheet.rows.zipIdx.filter fun entry ↦ property entry.1 := by
    refine List.filter_congr fun entry hentry ↦ Bool.eq_iff_iff.mpr ?_
    rw [decide_eq_true_iff]
    exact hproperty entry.1 (List.fst_mem_of_mem_zipIdx hentry)
  have hlength := congrArg List.length (map_filter_zipIdx table.sheet.rows property id)
  rw [List.length_map, List.length_map] at hlength
  rw [positionsIn, List.length_map, hfilter, hlength, List.countP_eq_length_filter]

theorem positionsIn_eq_range (hall : ∀ row ∈ table.sheet.rows, property row = true) :
    table.positionsIn answer = List.range table.sheet.rows.length := by
  have hrecords : (table.sheet.rows.zipIdx.filter fun entry ↦
      entry.1.record table.sheet.header ∈ answer.rows) = table.sheet.rows.zipIdx := by
    refine List.filter_eq_self.mpr fun entry hentry ↦ decide_eq_true ?_
    have hrow := List.fst_mem_of_mem_zipIdx hentry
    exact (hproperty entry.1 hrow).mpr (hall entry.1 hrow)
  rw [positionsIn, hrecords, List.zipIdx_map_snd, List.range_eq_range']

theorem map_rows_at_positionsIn {α : Type} (map : Row → α) :
    ((table.sheet.rows.zipIdx.filter fun entry ↦ entry.2 ∈ table.positionsIn answer).map
        fun entry ↦ map entry.1) = (table.sheet.rows.filter property).map map := by
  have hfilter : (table.sheet.rows.zipIdx.filter fun entry ↦
        entry.2 ∈ table.positionsIn answer) =
      table.sheet.rows.zipIdx.filter fun entry ↦ property entry.1 := by
    refine List.filter_congr fun entry hentry ↦ Bool.eq_iff_iff.mpr ?_
    rw [decide_eq_true_iff]
    exact mem_positionsIn_iff hproperty hentry
  rw [hfilter, map_filter_zipIdx]

theorem rows_outside_positionsIn :
    (table.sheet.rows.zipIdx.filter fun entry ↦ entry.2 ∉ table.positionsIn answer).map Prod.fst =
      table.sheet.rows.filter fun row ↦ !property row := by
  have hfilter : (table.sheet.rows.zipIdx.filter fun entry ↦
        entry.2 ∉ table.positionsIn answer) =
      table.sheet.rows.zipIdx.filter fun entry ↦ !property entry.1 := by
    refine List.filter_congr fun entry hentry ↦ Bool.eq_iff_iff.mpr ?_
    rw [decide_eq_true_iff, mem_positionsIn_iff hproperty hentry, Bool.not_eq_true,
      Bool.not_eq_true']
  have hrows := map_filter_zipIdx table.sheet.rows (fun row ↦ !property row) id
  rw [List.map_id] at hrows
  rw [hfilter, ← hrows]
  rfl

theorem rows_changed_at_positionsIn (change : Row → Row) :
    (table.sheet.rows.zipIdx.map fun entry ↦
        if entry.2 ∈ table.positionsIn answer then change entry.1 else entry.1) =
      table.sheet.rows.map fun row ↦ if property row then change row else row := by
  calc (table.sheet.rows.zipIdx.map fun entry ↦
        if entry.2 ∈ table.positionsIn answer then change entry.1 else entry.1)
      = table.sheet.rows.zipIdx.map fun entry ↦
          if property entry.1 then change entry.1 else entry.1 := by
        refine List.map_congr_left fun entry hentry ↦ ?_
        simp only [mem_positionsIn_iff hproperty hentry]
    _ = (table.sheet.rows.zipIdx.map Prod.fst).map fun row ↦
          if property row then change row else row := by
        rw [List.map_map]
        rfl
    _ = table.sheet.rows.map fun row ↦ if property row then change row else row := by
        rw [List.zipIdx_map_fst]

end Positions

/-- Selects, updates and deletes find the same rows for a filter. The answer of a select of every
column has the records at certain positions of the table, which are all of them if there is no
filter. A delete reports how many positions there are, and the file loads as the rows at the other
positions afterwards. An update reports the same number, and the file loads as the rows with the
values of the payload at these positions and the old rows at the others. -/
theorem filters_agree {payload : Payload} (hdelimiter : Delimited.Separates config.delimiter)
    (hload : ((loadNamed config name).run input disk).result = .ok table)
    (hfilter : ∀ condition ∈ filter, condition.column ∈ table.sheet.header)
    (hpayload : ∀ column ∈ payload.columns, column ∈ table.sheet.header) :
    ∃ answer,
      (((Query.selectAll name filter).execute config).run input disk).result = .ok answer ∧
      let positions := table.positionsIn answer
      let deleted := (((Change.delete filter).query name).execute config).run input disk
      let updated := (((Change.update payload filter).query name).execute config).run input disk
      answer.rows = ((table.sheet.rows.zipIdx.filter fun entry ↦ entry.2 ∈ positions).map
        fun entry ↦ entry.1.record table.sheet.header) ∧
      (filter = none → positions = List.range table.sheet.rows.length) ∧
      deleted.result =
        .ok (.single .delete "deleted_rows" positions.length positions.length) ∧
      ((loadNamed config name).run input deleted.disk).result =
        .ok (table.withRows
          ((table.sheet.rows.zipIdx.filter fun entry ↦ entry.2 ∉ positions).map Prod.fst)) ∧
      updated.result =
        .ok (.single .update "updated_rows" positions.length positions.length) ∧
      ((loadNamed config name).run input updated.disk).result =
        .ok (table.withRows (table.sheet.rows.zipIdx.map fun entry ↦
          if entry.2 ∈ positions then entry.1.assigned table.sheet.header payload
          else entry.1)) := by
  have hsound := (keptUnder_of_loadNamed hload).1.sound
  let keeps : Row → Bool := fun row ↦ row.meets table.sheet.header filter
  let answer : Answer := {
    operation := .select
    columns := table.sheet.header
    rows := (table.sheet.rows.filter keeps).map fun row ↦ row.record table.sheet.header
    affected := table.sheet.rows.countP keeps }
  have hrecords : ∀ row ∈ table.sheet.rows,
      row.record table.sheet.header ∈ answer.rows ↔ keeps row = true :=
    fun row hrow ↦ record_mem_map_filter_iff hsound keeps hrow
  have hcount : (table.positionsIn answer).length = table.sheet.rows.countP keeps :=
    length_positionsIn hrecords
  have hselected := map_rows_at_positionsIn hrecords fun row ↦ row.record table.sheet.header
  have hothers := rows_outside_positionsIn hrecords
  have hassigned := rows_changed_at_positionsIn hrecords fun row ↦
    row.assigned table.sheet.header payload
  obtain ⟨hdeleted, hleft⟩ := Change.run_delete hdelimiter input hload hfilter
  obtain ⟨hupdated, hchanged⟩ := Change.run_update hdelimiter input hload hpayload hfilter
  refine ⟨answer, Query.result_selectAll hload hfilter, ?_⟩
  dsimp only
  rw [hselected, hothers, hassigned, hcount]
  refine ⟨rfl, fun hnone ↦ ?_, hdeleted, hleft, hupdated, hchanged⟩
  refine positionsIn_eq_range hrecords fun row _ ↦ ?_
  change row.meets table.sheet.header filter = true
  rw [hnone]
  rfl

/-! ### The row without a name -/

/-- The changed rows when the second row of a file, which is too short for a name, is looked for by
its empty name and gets another id and a name. -/
theorem filters_agree_unevenDisk :
    let nameless : Option Filter := some ⟨"name", ""⟩
    let payload := Payload.ofList [("id", "9"), ("name", "Eve")]
    let deleted := (((Change.delete nameless).query "t").execute {}).run .empty unevenDisk
    let updated := (((Change.update payload nameless).query "t").execute {}).run .empty unevenDisk
    deleted.result = .ok (.single .delete "deleted_rows" 1 1) ∧
      ((loadNamed {} "t").run .empty deleted.disk).result =
        .ok (unevenTable.withRows [["7", "Ada"]]) ∧
      updated.result = .ok (.single .update "updated_rows" 1 1) ∧
      ((loadNamed {} "t").run .empty updated.disk).result =
        .ok (unevenTable.withRows [["7", "Ada"], ["9", "Eve"]]) := by
  intro nameless payload deleted updated
  have hseparates : Delimited.Separates ({} : Config).delimiter := by decide
  have hfilter : ∀ condition ∈ nameless, condition.column ∈ unevenTable.sheet.header := by decide
  have hpayload : ∀ column ∈ payload.columns, column ∈ unevenTable.sheet.header := by decide
  obtain ⟨answer, hanswer, -, -, hdeleted, hleft, hupdated, hchanged⟩ :=
    filters_agree hseparates load_unevenDisk hfilter hpayload
  have hselected : (((Query.selectAll "t" nameless).execute {}).run .empty unevenDisk).result =
      .ok { operation := .select, columns := ["id", "name"],
            rows := [[("id", .text "8"), ("name", .text "")]], affected := 1 } := rfl
  obtain rfl := Except.ok.inj (hanswer.symm.trans hselected)
  exact ⟨hdeleted, hleft, hupdated, hchanged⟩

end Table

end FlatTables
