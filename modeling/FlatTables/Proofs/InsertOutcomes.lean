import FlatTables.Proofs.FirstFaults

/-!
# What an insert comes to

An insert gives out one as the id if no id of the table stands for an integer, and otherwise the
integer after the greatest of them, in exact arithmetic: it fails rather than wrap around at the end
of the 64-bit range (`Table.insert_outcome`). Which integer is the greatest depends neither on how
long the ids are nor on their signs and zeros.

The columns are looked for before the ids are. So an insert that has no next id is told so only if
the table has all columns of the payload, and otherwise is told the first one that is missing
(`Table.insert_usedUp_unknown`). The table and the file are as before in both cases.
-/

set_option autoImplicit false
set_option relaxedAutoImplicit false

namespace FlatTables

namespace Table

variable {table changed : Table} {payload : Payload} {id : Int}

/-- Without an id column no row has an integer as its id. -/
theorem idColumn_mem_of_max? {greatest : Int} (hmax : table.idNumbers.max? = some greatest) :
    table.idColumn ∈ table.sheet.header := by
  obtain ⟨text, htext, hnumber⟩ := List.mem_filterMap.mp (List.max?_mem hmax)
  obtain ⟨row, -, rfl⟩ := List.mem_map.mp htext
  by_contra hcolumn
  rw [Row.valueIn_of_notMem hcolumn] at hnumber
  cases hnumber

/-! ### The checks of an insert -/

/-- An insert gets through its checks exactly if the columns are there and there is a next id. -/
theorem withInserted_eq_ok_iff (hnodup : table.sheet.header.Nodup) :
    table.withInserted payload = .ok (changed, id) ↔
      (∀ column ∈ table.idColumn :: payload.columns, column ∈ table.sheet.header) ∧
        following? table.idNumbers = some id ∧
        changed = table.withRows
          (table.sheet.rows ++ [Row.inserted table.sheet.header table.idColumn id payload]) := by
  have hpasses := (table.hasFirstFault_withInserted payload).exists_ok_iff
  simp only [List.forall_mem_append, List.forall_mem_singleton,
    Heading.checks_eq_none_iff, usedUp?_eq_none_iff] at hpasses
  constructor
  · intro hinserted
    obtain ⟨hcolumns, -⟩ := hpasses.mp ⟨_, hinserted⟩
    exact ⟨hcolumns, (changed_of_withInserted hnodup hinserted).2⟩
  · rintro ⟨hcolumns, hnext, rfl⟩
    obtain ⟨⟨worked, number⟩, hinserted⟩ := hpasses.mpr ⟨hcolumns, id, hnext⟩
    obtain ⟨-, hnumber, rfl⟩ := changed_of_withInserted hnodup hinserted
    obtain rfl := Option.some.inj (hnext.symm.trans hnumber)
    exact hinserted

/-- If the columns are there, an insert without a next id says so. -/
theorem withInserted_of_usedUp
    (hcolumns : ∀ column ∈ table.idColumn :: payload.columns, column ∈ table.sheet.header)
    (hnone : following? table.idNumbers = none) :
    table.withInserted payload = .error (.malformed table.path 0 .noNextId) := by
  have hpassed : ∀ check ∈ table.sheet.heading.checks (table.idColumn :: payload.columns),
      check = none := Heading.checks_eq_none_iff.mpr hcolumns
  refine (table.hasFirstFault_withInserted payload).eq_error_iff.mpr ⟨_, [], ?_, hpassed⟩
  rw [usedUp?, hnone]

/-- If the id column is there and a column of the payload is not, an insert is told the first such
column, whatever the ids are. -/
theorem withInserted_of_unknown (hid : table.idColumn ∈ table.sheet.header)
    (hunknown : ¬ ∀ column ∈ payload.columns, column ∈ table.sheet.header) :
    ∃ front column back, payload.columns = front ++ column :: back ∧
      (∀ known ∈ front, known ∈ table.sheet.header) ∧ column ∉ table.sheet.header ∧
      table.withInserted payload = .error (.unknownColumn column table.sheet.name) := by
  obtain ⟨front, column, back, hcolumns, hfront, hcolumn⟩ :=
    (forall_or_exists_first (· ∈ table.sheet.header) payload.columns).resolve_left hunknown
  have hmissing : table.sheet.heading.missing? column = some ⟨column, table.sheet.name⟩ :=
    if_neg hcolumn
  have hpassed : ∀ check ∈ table.sheet.heading.checks (table.idColumn :: front), check = none :=
    Heading.checks_eq_none_iff.mpr (List.forall_mem_cons.mpr ⟨hid, hfront⟩)
  refine ⟨front, column, back, hcolumns, hfront, hcolumn,
    (table.hasFirstFault_withInserted payload).eq_error_iff.mpr
      ⟨_, table.sheet.heading.checks back ++ [table.usedUp?], ?_, hpassed⟩⟩
  simp [Heading.checks, hcolumns, hmissing, Fault.ofUnknownColumn]

/-! ### The write of an insert -/

/-- An insert into a file that can be written comes to what its checks find: the changed table is
written, or nothing is done. -/
theorem run_insert {disk : Disk}
    (hwrite : ∀ content, ∃ next, disk.write table.path content = .ok next) (payload : Payload)
    (input : ByteArray) :
    let outcome := (table.insert payload).run input disk
    (∃ fault, table.withInserted payload = .error fault ∧
        outcome.result = (table, .error fault) ∧ outcome.disk = disk) ∨
      ∃ changed id, table.withInserted payload = .ok (changed, id) ∧
        outcome.result = (changed, .ok id) ∧
        disk.write table.path changed.text.toUTF8 = .ok outcome.disk := by
  intro outcome
  have hends := (Change.insert payload).ends_on table input [] disk
  rw [Procedure.runUnder_nil] at hends
  change Change.Ends _ table none disk outcome.result outcome.disk at hends
  generalize outcome.result = result, outcome.disk = after at hends ⊢
  cases hends with
  | stopped hworked => exact Or.inl ⟨_, hworked, rfl, rfl⟩
  | idle hworked hwrites => cases hwrites
  | unwritten hworked hwrites hfailed =>
    obtain ⟨rows, rfl, -⟩ := Change.workedOut_eq_ok hworked
    obtain ⟨next, hnext⟩ := hwrite (table.withRows rows).text.toUTF8
    cases hfailed.symm.trans hnext
  | written hworked hwrites hwritten =>
    obtain ⟨rows, rfl, -⟩ := Change.workedOut_eq_ok hworked
    exact Or.inr ⟨_, _, hworked, rfl, hwritten⟩

/-- What an insert into a loaded table comes to, if its file can be written. It returns an id
exactly if the id column and the columns of the payload are there and the id is one, no id of the
table being an integer, or the exact successor of their maximum, both in the 64-bit range. Then the
row with this id and the values of the payload, empty where it has none, is behind the rows from
before, and the file is that of the new table. If the maximum or its successor is out of the range
the insert fails, with the table and the disk as they were. It fails for this reason if the columns
of the payload are there, and otherwise with the first of them that is not. -/
theorem insert_outcome {config : Config} {path : String} {earlier disk : Disk} {input : ByteArray}
    (hload : ((load config path).run input earlier).result = .ok table)
    (hwrite : ∀ content, ∃ next, disk.write table.path content = .ok next) (payload : Payload) :
    let outcome := (table.insert payload).run input disk
    let header := table.sheet.header
    let known := ∀ column ∈ payload.columns, column ∈ header
    (∀ id, outcome.result.2 = .ok id ↔
      table.idColumn ∈ header ∧ known ∧
        ((table.idNumbers = [] ∧ id = 1) ∨ ∃ greatest, table.idNumbers.max? = some greatest ∧
          -2 ^ 63 ≤ greatest ∧ greatest ≤ 2 ^ 63 - 2 ∧ id = greatest + 1)) ∧
      (∀ id, outcome.result.2 = .ok id →
        outcome.result.1 = table.withRows (table.sheet.rows ++ [header.map fun column ↦
          if column = table.idColumn then toString id else (payload.get? column).getD ""]) ∧
        disk.write table.path outcome.result.1.text.toUTF8 = .ok outcome.disk) ∧
      ∀ greatest, table.idNumbers.max? = some greatest →
        ¬ (-2 ^ 63 ≤ greatest ∧ greatest ≤ 2 ^ 63 - 2) →
        (∃ fault, outcome.result = (table, .error fault)) ∧ outcome.disk = disk ∧
          (known → outcome.result.2 = .error (.malformed table.path 0 .noNextId)) ∧
          (¬ known → ∃ front column back, payload.columns = front ++ column :: back ∧
            (∀ earlier ∈ front, earlier ∈ header) ∧ column ∉ header ∧
            outcome.result.2 = .error (.unknownColumn column table.sheet.name)) := by
  intro outcome header known
  rw [run_load] at hload
  have hnodup := (keptUnder_of_ofContent hload).1.sound.header_nodup
  have hcases := run_insert hwrite payload input
  have hok : ∀ id, outcome.result.2 = .ok id ↔
      ∃ changed, table.withInserted payload = .ok (changed, id) := by
    intro id
    rcases hcases with ⟨fault, hworked, hresult, -⟩ | ⟨changed, number, hworked, hresult, -⟩
    · simp [outcome, hworked, hresult]
    · simp [outcome, hworked, hresult]
  refine ⟨fun id ↦ ?_, fun id hid ↦ ?_, fun greatest hmax hrange ↦ ?_⟩
  · rw [hok]
    simp only [withInserted_eq_ok_iff hnodup, List.forall_mem_cons, following?_eq_some_iff,
      exists_and_left, exists_eq, and_true, and_assoc, header, known]
  · obtain ⟨changed, hinserted⟩ := (hok id).mp hid
    obtain ⟨-, -, rfl⟩ := (withInserted_eq_ok_iff hnodup).mp hinserted
    rcases hcases with ⟨fault, hworked, -⟩ | ⟨changed, number, hworked, hresult, hwritten⟩
    · cases hworked.symm.trans hinserted
    · cases hworked.symm.trans hinserted
      exact ⟨congrArg Prod.fst hresult, hresult ▸ hwritten⟩
  · have hnone := following?_eq_none_of_max? hmax hrange
    have hidColumn := idColumn_mem_of_max? hmax
    rcases hcases with ⟨fault, hworked, hresult, hdisk⟩ | ⟨changed, number, hworked, -⟩
    · refine ⟨⟨fault, hresult⟩, hdisk, fun hknown ↦ ?_, fun hunknown ↦ ?_⟩
      · have hcolumns := List.forall_mem_cons.mpr ⟨hidColumn, hknown⟩
        rw [withInserted_of_usedUp hcolumns hnone] at hworked
        rw [hresult, ← Except.error.inj hworked]
      · obtain ⟨front, column, back, hcolumns, hfront, hcolumn, hmissing⟩ :=
          withInserted_of_unknown hidColumn hunknown
        refine ⟨front, column, back, hcolumns, hfront, hcolumn, ?_⟩
        rw [hresult, ← Except.error.inj (hworked.symm.trans hmissing)]
    · obtain ⟨-, hnext, -⟩ := (withInserted_eq_ok_iff hnodup).mp hworked
      cases hnone.symm.trans hnext

/-- A disk with a table whose ids are a word, a negative number below the 64-bit range, and the
last number but one of this range, written with a sign and zeros. -/
def wideIdsDisk : Disk :=
  { entries := [(["t.csv"], .file
      "id,name\nx,Ada\n-99999999999999999999,Bob\n+009223372036854775806,Cid\n".toUTF8)] }

/-- This table. -/
def wideIdsTable : Table :=
  ⟨"./t.csv", ',', "id", ⟨"t", ["id", "name"],
    [["x", "Ada"], ["-99999999999999999999", "Bob"], ["+009223372036854775806", "Cid"]]⟩⟩

/-- The last number of the 64-bit range is given out. -/
theorem insert_outcome_wideIds :
    let outcome := (wideIdsTable.insert (.ofList [("name", "Eve")])).run .empty wideIdsDisk
    ((load {} "./t.csv").run .empty wideIdsDisk).result = .ok wideIdsTable ∧
      (∀ content, ∃ next, wideIdsDisk.write wideIdsTable.path content = .ok next) ∧
      outcome.result = (wideIdsTable.withRows (wideIdsTable.sheet.rows ++
        [["9223372036854775807", "Eve"]]), .ok 9223372036854775807) := by
  intro outcome
  have hload : ((load {} "./t.csv").run .empty wideIdsDisk).result = .ok wideIdsTable := rfl
  have hread : wideIdsDisk.read wideIdsTable.path = .ok _ := rfl
  have hwrite := Disk.write_of_read hread
  obtain ⟨hid, hchanged, -⟩ := insert_outcome hload hwrite (.ofList [("name", "Eve")])
  have hgreatest : wideIdsTable.idNumbers.max? = some 9223372036854775806 := rfl
  have hsuccess : outcome.result.2 = .ok 9223372036854775807 :=
    (hid _).mpr ⟨by decide, by decide, Or.inr ⟨_, hgreatest, by decide, by decide, rfl⟩⟩
  exact ⟨hload, hwrite, Prod.ext (hchanged _ hsuccess).1 hsuccess⟩

/-- A disk with a table whose id has no successor in the 64-bit range. -/
def usedUpDisk : Disk :=
  { entries := [(["t.csv"], .file "id,name\n99999999999999999999,Ada\n".toUTF8)] }

/-- This table. -/
def usedUpTable : Table :=
  ⟨"./t.csv", ',', "id", ⟨"t", ["id", "name"], [["99999999999999999999", "Ada"]]⟩⟩

/-- The missing successor is not what the insert fails with if a column is missing as well. -/
theorem insert_usedUp_unknown :
    let outcome := (usedUpTable.insert (.ofList [("age", "3")])).run .empty usedUpDisk
    ((load {} "./t.csv").run .empty usedUpDisk).result = .ok usedUpTable ∧
      (∀ content, ∃ next, usedUpDisk.write usedUpTable.path content = .ok next) ∧
      usedUpTable.idNumbers.max? = some 99999999999999999999 ∧
      ¬ ((99999999999999999999 : Int) ≤ 2 ^ 63 - 2) ∧
      outcome.result = (usedUpTable, .error (.unknownColumn "age" "t")) ∧
      ∀ path line flaw, outcome.result.2 ≠ .error (.malformed path line flaw) := by
  intro outcome
  have hread : usedUpDisk.read usedUpTable.path = .ok _ := rfl
  have hresult : outcome.result = (usedUpTable, .error (.unknownColumn "age" "t")) := rfl
  refine ⟨rfl, Disk.write_of_read hread, rfl, by decide, hresult, fun path line flaw hfailed ↦ ?_⟩
  rw [hresult] at hfailed
  cases hfailed

end Table

end FlatTables
