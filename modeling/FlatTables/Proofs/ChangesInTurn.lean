import FlatTables.Proofs.FirstFaults
import FlatTables.Proofs.UpdatedRows

/-!
# Changes in turn

Two queries for changes are made one after the other, and the second loads the file that the first
has left. What is on the disk then is told by the table that the second leaves: its text is in the
file if one of the two had to write, and the layout of the file is as it was if neither had to
(`Table.Leaves.trans`, `Change.askAnew_pair`).

An update that is made a second time finds its values in place. The files are the same afterwards
(`Query.update_idempotent`). It counts the rows that it counted before, or none if it put another
value into the column that it filters by.

Two changes that make one table in either order leave one disk (`Change.askAnew_swapped`). So two
updates may change places if neither assigns a column that the other one names, and so may an update
and a delete if the update leaves the column of the delete alone (`Change.comm_of_apart`). Rows that
the delete took away before are not counted by the update.
-/

set_option autoImplicit false
set_option relaxedAutoImplicit false

namespace FlatTables

/-! ### What is on the disk -/

namespace Table

/-- What is on the disk after changes that left a table: its text in its file if this was written,
and otherwise what was there before. -/
def Leaves (table : Table) (written : Bool) (disk after : Disk) : Prop :=
  match written with
  | true => disk.write table.path table.text.toUTF8 = .ok after
  | false => after = disk

variable {table next : Table} {written again : Bool} {disk between after other : Disk}

theorem Leaves.eq (hleaves : table.Leaves written disk after)
    (hother : table.Leaves written disk other) : after = other := by
  cases written with
  | true => exact Except.ok.inj (hleaves.symm.trans hother)
  | false => exact hleaves.trans hother.symm

/-- Of changes in turn the last table is left, whichever of them wrote. -/
theorem Leaves.trans {content : ByteArray} (hread : disk.read table.path = .ok content)
    (hleaves : table.Leaves written disk between) (hpath : next.path = table.path)
    (hsame : again = false → next = table) (hnext : next.Leaves again between after) :
    next.Leaves (written || again) disk after := by
  cases again with
  | false =>
    obtain rfl : after = between := hnext
    rw [hsame rfl, Bool.or_false]
    exact hleaves
  | true =>
    rw [Bool.or_true]
    cases written with
    | false =>
      obtain rfl : between = disk := hleaves
      exact hnext
    | true =>
      have hover := Disk.write_write hread hleaves next.text.toUTF8
      rw [← hpath] at hover
      exact hover.symm.trans hnext

end Table

namespace Change

variable {config : Config} {name : String} {input : ByteArray} {disk : Disk}
  {table changed final : Table} {number : Int} {change first second : Change}

/-- The query for a change that can be worked out leaves the changed table. -/
theorem leaves_query (hload : ((Table.loadNamed config name).run input disk).result = .ok table)
    (hworked : change.workedOut table = .ok (changed, number)) :
    changed.Leaves (change.writes number) disk
      (((change.query name).execute config).run input disk).disk := by
  obtain ⟨hpath, hreflects⟩ := Table.result_loadNamed_eq_ok_iff.mp hload
  obtain ⟨content, hread⟩ := Table.exists_content_of_ofContent hreflects
  obtain ⟨rows, rfl, -⟩ := workedOut_eq_ok hworked
  obtain ⟨next, hwrite⟩ := Disk.write_of_read hread (table.withRows rows).text.toUTF8
  rw [(run_execute_query hpath hreflects change input).2, on_eq, hworked]
  dsimp only
  cases hwrites : change.writes number with
  | false => rfl
  | true =>
    have hpersist : (table.withRows rows).persist.run input disk = _ :=
      Table.run_persist input hwrite
    rw [if_pos rfl, Procedure.run_andThen, hpersist]
    exact hwrite

theorem path_of_workedOut (hworked : change.workedOut table = .ok (changed, number)) :
    changed.path = table.path := by
  obtain ⟨rows, rfl, -⟩ := workedOut_eq_ok hworked
  rfl

/-- Two changes that can be worked out in turn are answered with their numbers, and leave the table
that the second one makes. -/
theorem askAnew_pair {middle : Table} {last : Int}
    (hdelimiter : Delimited.Separates config.delimiter)
    (hload : ((Table.loadNamed config name).run input disk).result = .ok table)
    (hfirst : first.workedOut table = .ok (middle, number))
    (hsecond : second.workedOut middle = .ok (final, last)) :
    ∃ between after, askAnew input config name [first, second] disk =
        [(.ok (first.answer number), between), (.ok (second.answer last), after)] ∧
      middle.Leaves (first.writes number) disk between ∧
      final.Leaves (first.writes number || second.writes last) disk after := by
  obtain ⟨hanswer, hmiddle⟩ := run_query_of_workedOut hdelimiter input hload hfirst
  obtain ⟨hlast, -⟩ := run_query_of_workedOut hdelimiter input hmiddle hsecond
  obtain ⟨hpath, hreflects⟩ := Table.result_loadNamed_eq_ok_iff.mp hload
  obtain ⟨content, hread⟩ := Table.exists_content_of_ofContent hreflects
  rw [← path_of_workedOut hfirst] at hread
  have hleaves := leaves_query hload hfirst
  refine ⟨_, _, ?_, hleaves, hleaves.trans hread (path_of_workedOut hsecond)
    (eq_of_writes_eq_false hsecond) (leaves_query hmiddle hsecond)⟩
  simp only [askAnew, hanswer, hlast]

/-- A change that ends with a number was worked out, and its table is the one that is kept. -/
theorem Ends.workedOut_of_ok {refusal : Option FileFailure} {result : Table × Except Fault Int}
    {after : Disk} (hends : change.Ends table refusal disk result after)
    (hnumber : result.2 = .ok number) : change.workedOut table = .ok (result.1, number) := by
  cases hends with
  | stopped hworked => cases hnumber
  | idle hworked hwrites =>
    cases hnumber
    exact hworked
  | unwritten hworked hwrites hwrite => cases hnumber
  | written hworked hwrites hwrite =>
    cases hnumber
    exact hworked

/-! ### Updates and deletes that can be worked out -/

section WorkedOut

variable {payload : Payload} {filter : Option Filter}

theorem workedOut_update (hsound : table.Sound)
    (hpayload : ∀ column ∈ payload.columns, column ∈ table.sheet.header)
    (hcolumns : ∀ condition ∈ filter, condition.column ∈ table.sheet.header) :
    (update payload filter).workedOut table =
      .ok (table.updated payload filter, Int.ofNat (table.found filter)) := by
  rw [workedOut, Table.withUpdated_eq_updated hcolumns hsound hpayload]
  rfl

theorem workedOut_delete
    (hcolumns : ∀ condition ∈ filter, condition.column ∈ table.sheet.header) :
    (delete filter).workedOut table =
      .ok (table.without filter, Int.ofNat (table.found filter)) := by
  rw [workedOut, Table.withDeleted_eq_without hcolumns]
  rfl

end WorkedOut

/-- An update that can be worked out names columns of the table. -/
theorem mem_of_workedOut_update {payload : Payload} {filter : Option Filter}
    (hworked : (update payload filter).workedOut table = .ok (changed, number)) :
    (∀ column ∈ payload.columns, column ∈ table.sheet.header) ∧
      ∀ condition ∈ filter, condition.column ∈ table.sheet.header := by
  have hpassed := (hasFirstFault_workedOut table (update payload filter)).exists_ok_iff.mp
    ⟨_, hworked⟩
  rw [preliminaries, List.forall_mem_append, Heading.checks_eq_none_iff,
    Heading.checks_eq_none_iff] at hpassed
  refine ⟨hpassed.1, fun condition hcondition ↦ hpassed.2 _ ?_⟩
  obtain rfl := hcondition
  exact List.mem_singleton_self _

/-! ### An update made twice -/

/-- An update of the table that it has made makes this table. -/
theorem workedOut_update_again {payload : Payload} {filter : Option Filter} {count : Nat}
    (hsound : table.Sound)
    (hworked : (update payload filter).workedOut table = .ok (changed, Int.ofNat count)) :
    ∃ again, (update payload filter).workedOut changed = .ok (changed, Int.ofNat again) ∧
      (payload.Reassigns filter → again = 0) ∧ (¬ payload.Reassigns filter → again = count) := by
  obtain ⟨hpayload, hcolumns⟩ := mem_of_workedOut_update hworked
  obtain ⟨rfl, hcount⟩ := Prod.mk.inj
    (Except.ok.inj ((workedOut_update hsound hpayload hcolumns).symm.trans hworked))
  have hagain := workedOut_update (hsound.updated payload filter) hpayload hcolumns
  rw [table.updated_self] at hagain
  refine ⟨_, hagain, fun hreassigns ↦ ?_, fun hkeeps ↦ ?_⟩
  · exact Table.found_updated_of_reassigns hcolumns hreassigns
  · rw [Table.found_updated_of_not_reassigns hcolumns hkeeps]
    exact Int.ofNat.inj hcount

/-- An update that is asked for twice leaves the same disk twice. -/
theorem askAnew_update_twice {payload : Payload} {filter : Option Filter} {count : Nat}
    (hdelimiter : Delimited.Separates config.delimiter)
    (hload : ((Table.loadNamed config name).run input disk).result = .ok table)
    (hworked : (update payload filter).workedOut table = .ok (changed, Int.ofNat count)) :
    ∃ (again : Nat) (after : Disk),
      askAnew input config name [update payload filter, update payload filter] disk =
        [(.ok (.single .update "updated_rows" count count), after),
          (.ok (.single .update "updated_rows" again again), after)] ∧
      (payload.Reassigns filter → again = 0) ∧ (¬ payload.Reassigns filter → again = count) := by
  have hsound := (Table.keptUnder_of_loadNamed hload).1.sound
  obtain ⟨again, hagain, hreassigns, hkeeps⟩ := workedOut_update_again hsound hworked
  obtain ⟨between, after, hpair, hbetween, hafter⟩ := askAnew_pair hdelimiter hload hworked hagain
  -- The second update writes only if the first one did, and then it writes the same text.
  have hwrites : ((update payload filter).writes (Int.ofNat count) ||
      (update payload filter).writes (Int.ofNat again)) =
        (update payload filter).writes (Int.ofNat count) := by
    by_cases hcase : payload.Reassigns filter
    · rw [hreassigns hcase]
      exact Bool.or_false _
    · rw [hkeeps hcase, Bool.or_self]
  rw [hwrites] at hafter
  obtain rfl := hafter.eq hbetween
  exact ⟨again, after, hpair, hreassigns, hkeeps⟩

end Change

namespace Query

variable {query : Query} {config : Config} {input : ByteArray} {disk : Disk} {answer : Answer}

/-- A query for a change of a table does what the plain query for this change does. -/
theorem execute_eq_of_requested {name : String} {change : Change}
    (hrequest : Change.requested? query = some (.ok change)) (htable : query.table = some name) :
    query.execute config = (change.query name).execute config := by
  rw [Change.execute_of_requested hrequest, Change.execute_query, target, htable,
    Change.operation_of_requested hrequest]
  rfl

/-- A query that succeeds and is no select makes a change of a table that loads. -/
theorem exists_change_of_ok (hchange : query.operation ≠ .select)
    (hok : ((query.execute config).run input disk).result = .ok answer) :
    ∃ name change table changed number, Change.requested? query = some (.ok change) ∧
      query.table = some name ∧
      ((Table.loadNamed config name).run input disk).result = .ok table ∧
      change.workedOut table = .ok (changed, number) ∧ answer = change.answer number := by
  cases hrequest : Change.requested? query with
  | none => exact absurd (Change.requested?_eq_none_iff.mp hrequest) hchange
  | some request =>
    rw [← Procedure.runUnder_nil, Change.execute_of_requested hrequest, Procedure.runUnder] at hok
    dsimp only at hok
    rw [result_onSuccess_of_reports (Procedure.reports_pure _)] at hok
    obtain ⟨name, hname, hnamed⟩ := exists_of_bind_eq_ok hok
    rw [result_onSuccess_of_reports (Procedure.reports_pure _)] at hnamed
    obtain ⟨change, rfl, hmade⟩ := exists_of_bind_eq_ok hnamed
    rw [result_onSuccess_loadNamed] at hmade
    obtain ⟨table, hstored, hended⟩ := exists_of_bind_eq_ok hmade
    rw [Procedure.runUnder_map] at hended
    obtain ⟨number, hnumber, rfl⟩ := exists_of_map_eq_ok hended
    have htarget : query.table = some name := by
      unfold target at hname
      split at hname <;> cases hname
      assumption
    have hends := change.ends_on table input [] disk
    exact ⟨name, change, table, _, number, rfl, htarget,
      Table.result_loadNamed_eq_ok_iff.mpr (Table.reflects_of_storedUnder hstored),
      hends.workedOut_of_ok hnumber, rfl⟩

/-- An update that succeeds was worked out from the payload of its query. -/
theorem exists_update_of_ok (hupdate : query.operation = .update)
    (hok : ((query.execute config).run input disk).result = .ok answer) :
    ∃ name payload table changed, ∃ count : Nat, query.payload = some payload ∧
      query.execute config =
        ((Change.update payload query.filter).query name).execute config ∧
      ((Table.loadNamed config name).run input disk).result = .ok table ∧
      (Change.update payload query.filter).workedOut table = .ok (changed, Int.ofNat count) ∧
      answer = .single .update "updated_rows" count count := by
  have hchange : query.operation ≠ .select := by simp [hupdate]
  obtain ⟨name, change, table, changed, number, hrequest, htable, hload, hworked, rfl⟩ :=
    exists_change_of_ok hchange hok
  have hexecute : query.execute config = (change.query name).execute config :=
    execute_eq_of_requested hrequest htable
  have hmade : query.assigned.map (Change.update · query.filter) = .ok change := by
    simpa [Change.requested?, hupdate] using hrequest
  obtain ⟨payload, hassigned, rfl⟩ := exists_of_map_eq_ok hmade
  have hpayload : query.payload = some payload := by
    unfold assigned at hassigned
    split at hassigned <;> cases hassigned
    assumption
  obtain ⟨⟨_, count⟩, -, hcount⟩ := exists_of_map_eq_ok hworked
  cases hcount
  exact ⟨name, payload, table, _, count, hpayload, hexecute, hload, hworked, rfl⟩

/-- An update may be made a second time. If it succeeds, it succeeds again and changes no file any
more. It counts no row then if it has another value for the column of its filter than the filter
asks for, and as many as before otherwise. -/
theorem update_idempotent (hdelimiter : Delimited.Separates config.delimiter)
    (hupdate : query.operation = .update)
    (hok : ((query.execute config).run input disk).result = .ok answer) :
    let first := (query.execute config).run input disk
    let second := (query.execute config).run input first.disk
    second.disk = first.disk ∧ ∃ (payload : Payload) (count again : Nat),
      query.payload = some payload ∧
      answer = .single .update "updated_rows" count count ∧
      second.result = .ok (.single .update "updated_rows" again again) ∧
      (payload.Reassigns query.filter → again = 0) ∧
      (¬ payload.Reassigns query.filter → again = count) := by
  intro first second
  obtain ⟨name, payload, table, changed, count, hpayload, hexecute, hload, hworked, rfl⟩ :=
    exists_update_of_ok hupdate hok
  obtain ⟨again, after, hpair, hreassigns, hkeeps⟩ :=
    Change.askAnew_update_twice hdelimiter hload hworked
  have hruns : askAnew input config name
      [.update payload query.filter, .update payload query.filter] disk =
        [(first.result, first.disk), (second.result, second.disk)] := by
    simp only [first, second, hexecute, askAnew]
  rw [hpair] at hruns
  simp only [List.cons.injEq, Prod.mk.injEq] at hruns
  obtain ⟨⟨-, hfirst⟩, ⟨hsecond, hlast⟩, -⟩ := hruns
  exact ⟨hlast.symm.trans hfirst, payload, count, again, hpayload, rfl, hsecond.symm, hreassigns,
    hkeeps⟩

/-- The query that puts a name into the rows with a given value in a column. -/
def naming (name column value : String) : Query :=
  { operation := .update, table := some "t", filter := some ⟨column, value⟩,
    payload := some (.ofList [("name", name)]) }

/-- Whoever has no name gets one, and the second update finds nobody without a name. An update of
the row with an id finds it again. Both write the file the first time, which had another layout. -/
theorem update_idempotent_unevenDisk :
    let unnamed := (naming "Eve" "name" "").execute {}
    let eighth := (naming "Eve" "id" "8").execute {}
    let after := (unnamed.run .empty unevenDisk).disk
    Delimited.Separates ',' ∧
      (unnamed.run .empty unevenDisk).result = .ok (.single .update "updated_rows" 1 1) ∧
      (unnamed.run .empty after).result = .ok (.single .update "updated_rows" 0 0) ∧
      (unnamed.run .empty after).disk = after ∧
      after.read "./t.csv" = .ok "id,name\n7,Ada\n8,Eve\n".toUTF8 ∧
      (eighth.run .empty unevenDisk).result = .ok (.single .update "updated_rows" 1 1) ∧
      (eighth.run .empty (eighth.run .empty unevenDisk).disk).result =
        .ok (.single .update "updated_rows" 1 1) := by
  intro unnamed eighth after
  have hunnamed : (unnamed.run .empty unevenDisk).result =
      .ok (.single .update "updated_rows" 1 1) := rfl
  have heighth : (eighth.run .empty unevenDisk).result =
      .ok (.single .update "updated_rows" 1 1) := rfl
  obtain ⟨hdisk, _, _, _, hpayload, -, hagain, hzero, -⟩ :=
    update_idempotent (by decide) (by decide) hunnamed
  obtain ⟨-, _, _, _, hkept, hcount, hsame, -, hkeeps⟩ :=
    update_idempotent (by decide) (by decide) heighth
  cases hpayload
  cases hkept
  cases hcount
  have hreassigns : (Payload.ofList [("name", "Eve")]).Reassigns (some ⟨"name", ""⟩) := by decide
  have hother : ¬ (Payload.ofList [("name", "Eve")]).Reassigns (some ⟨"id", "8"⟩) := by decide
  rw [hzero hreassigns] at hagain
  rw [hkeeps hother] at hsame
  exact ⟨by decide, hunnamed, hagain, hdisk, rfl, heighth, hsame⟩

end Query

/-! ### Changes in either order -/

namespace Change

variable {config : Config} {name : String} {input : ByteArray} {disk : Disk} {table : Table}

/-- Two changes that make the same table in either order leave the same disk, if they write in the
one order when they write in the other. -/
theorem askAnew_swapped {first second : Change} {middle otherMiddle final : Table}
    {number last otherNumber otherLast : Int}
    (hdelimiter : Delimited.Separates config.delimiter)
    (hload : ((Table.loadNamed config name).run input disk).result = .ok table)
    (hfirst : first.workedOut table = .ok (middle, number))
    (hsecond : second.workedOut middle = .ok (final, last))
    (hother : second.workedOut table = .ok (otherMiddle, otherNumber))
    (hotherLast : first.workedOut otherMiddle = .ok (final, otherLast))
    (hwrites : (first.writes number || second.writes last) =
      (second.writes otherNumber || first.writes otherLast)) :
    ∃ between otherBetween after,
      askAnew input config name [first, second] disk =
        [(.ok (first.answer number), between), (.ok (second.answer last), after)] ∧
      askAnew input config name [second, first] disk =
        [(.ok (second.answer otherNumber), otherBetween),
          (.ok (first.answer otherLast), after)] := by
  obtain ⟨between, after, hpair, -, hafter⟩ := askAnew_pair hdelimiter hload hfirst hsecond
  obtain ⟨otherBetween, otherAfter, hswapped, -, hotherAfter⟩ :=
    askAnew_pair hdelimiter hload hother hotherLast
  rw [← hwrites] at hotherAfter
  obtain rfl := hafter.eq hotherAfter
  exact ⟨between, otherBetween, after, hpair, hswapped⟩

/-- Changes that name different columns may be made in either order, and leave the same disk. Two
updates that spare the columns of each other's filters find the rows that they find alone. So does
a delete after an update that spares the column of its filter, but the update does not find the rows
that the delete took away before. -/
theorem comm_of_apart {payload : Payload} {filter otherFilter : Option Filter}
    (hdelimiter : Delimited.Separates config.delimiter)
    (hload : ((Table.loadNamed config name).run input disk).result = .ok table)
    (hpayload : ∀ column ∈ payload.columns, column ∈ table.sheet.header)
    (hcolumns : ∀ condition ∈ filter, condition.column ∈ table.sheet.header)
    (hothers : ∀ condition ∈ otherFilter, condition.column ∈ table.sheet.header)
    (hspares : payload.Spares otherFilter) :
    let count := table.found filter
    let otherCount := table.found otherFilter
    (∀ other : Payload, (∀ column ∈ other.columns, column ∈ table.sheet.header) →
      payload.columns.Disjoint other.columns → other.Spares filter →
      ∃ between otherBetween after,
        askAnew input config name [update payload filter, update other otherFilter] disk =
          [(.ok (.single .update "updated_rows" count count), between),
            (.ok (.single .update "updated_rows" otherCount otherCount), after)] ∧
        askAnew input config name [update other otherFilter, update payload filter] disk =
          [(.ok (.single .update "updated_rows" otherCount otherCount), otherBetween),
            (.ok (.single .update "updated_rows" count count), after)]) ∧
    ∃ (left : Nat) (between otherBetween after : Disk),
      askAnew input config name [update payload filter, delete otherFilter] disk =
        [(.ok (.single .update "updated_rows" count count), between),
          (.ok (.single .delete "deleted_rows" otherCount otherCount), after)] ∧
      askAnew input config name [delete otherFilter, update payload filter] disk =
        [(.ok (.single .delete "deleted_rows" otherCount otherCount), otherBetween),
          (.ok (.single .update "updated_rows" left left), after)] ∧
      left + (table.sheet.rows.countP fun row ↦
        row.meets table.sheet.header filter && row.meets table.sheet.header otherFilter) =
          count := by
  intro count otherCount
  have hsound := (Table.keptUnder_of_loadNamed hload).1.sound
  have hupdate := workedOut_update hsound hpayload hcolumns
  have hupdated := hsound.updated payload filter
  constructor
  · intro other hother hapart hotherSpares
    have hnext := workedOut_update hupdated hother hothers
    have hfirst := workedOut_update hsound hother hothers
    have hlast := workedOut_update (hsound.updated other otherFilter) hpayload hcolumns
    rw [Table.updated_comm hcolumns hothers hapart hspares hotherSpares,
      Table.found_updated hothers hspares] at hnext
    rw [Table.found_updated hcolumns hotherSpares] at hlast
    exact askAnew_swapped hdelimiter hload hupdate hnext hfirst hlast (Bool.or_comm _ _)
  · have hdelete := workedOut_delete hothers
    have hnext : (delete otherFilter).workedOut (table.updated payload filter) = _ :=
      workedOut_delete hothers
    have hlast := workedOut_update (hsound.without otherFilter) hpayload hcolumns
    have hfewer := table.found_without filter otherFilter
    rw [Table.without_updated hothers hspares, Table.found_updated hothers hspares] at hnext
    -- A delete that does not write takes no row, and then the update finds what it finds alone.
    let left := (table.without otherFilter).found filter
    have hwrites : ((update payload filter).writes (Int.ofNat count) ||
        (delete otherFilter).writes (Int.ofNat otherCount)) =
          ((delete otherFilter).writes (Int.ofNat otherCount) ||
            (update payload filter).writes (Int.ofNat left)) := by
      cases hidle : (delete otherFilter).writes (Int.ofNat otherCount) with
      | true => rw [Bool.or_true, Bool.true_or]
      | false =>
        have hsame : left = count :=
          congrArg (Table.found · filter) (eq_of_writes_eq_false hdelete hidle)
        rw [hsame, Bool.or_comm]
    obtain ⟨between, otherBetween, after, hpair, hswapped⟩ :=
      askAnew_swapped hdelimiter hload hupdate hnext hdelete hlast hwrites
    exact ⟨left, between, otherBetween, after, hpair, hswapped, hfewer⟩

/-- A text with long line ends, a blank line and a short row. -/
def classText : String :=
  "id,name,class\r\n1,Ada\r\n\r\n2,Bob,b\r\n3,Cid,b\r\n4,Ada,b\r\n"

/-- A disk with this text in its only file. -/
def classDisk : Disk :=
  { entries := [(["t.csv"], .file classText.toUTF8)] }

/-- The table of this text. -/
def classTable : Table :=
  ⟨"./t.csv", ',', "id", ⟨"t", ["id", "name", "class"],
    [["1", "Ada", ""], ["2", "Bob", "b"], ["3", "Cid", "b"], ["4", "Ada", "b"]]⟩⟩

theorem load_classDisk :
    ((Table.loadNamed {} "t").run .empty classDisk).result = .ok classTable := rfl

/-- Two pupils are called Ada, and one of them is in class b. Both get another name, and the three
in class b get another id or are deleted. -/
theorem comm_of_apart_classDisk :
    let naming := update (.ofList [("name", "Eve")]) (some ⟨"name", "Ada"⟩)
    let numbering := update (.ofList [("id", "9")]) (some ⟨"class", "b"⟩)
    let removal := delete (some ⟨"class", "b"⟩)
    let updated (count : Nat) := Except.ok (Answer.single .update "updated_rows" count count)
    let deleted (count : Nat) := Except.ok (Answer.single .delete "deleted_rows" count count)
    let ask (changes : List Change) := askAnew .empty {} "t" changes classDisk
    Delimited.Separates ',' ∧
      ((Table.loadNamed {} "t").run .empty classDisk).result = .ok classTable ∧
      (∃ between otherBetween after,
        ask [naming, numbering] = [(updated 2, between), (updated 3, after)] ∧
        ask [numbering, naming] = [(updated 3, otherBetween), (updated 2, after)]) ∧
      ∃ between otherBetween after,
        ask [naming, removal] = [(updated 2, between), (deleted 3, after)] ∧
        ask [removal, naming] = [(deleted 3, otherBetween), (updated 1, after)] := by
  intro naming numbering removal updated deleted ask
  have hpayload : ∀ column ∈ (Payload.ofList [("name", "Eve")]).columns,
      column ∈ classTable.sheet.header := by decide
  have hcolumns : ∀ condition ∈ some (⟨"name", "Ada"⟩ : Filter),
      condition.column ∈ classTable.sheet.header := by decide
  have hothers : ∀ condition ∈ some (⟨"class", "b"⟩ : Filter),
      condition.column ∈ classTable.sheet.header := by decide
  have hspares : (Payload.ofList [("name", "Eve")]).Spares (some ⟨"class", "b"⟩) := by decide
  have hapart : ∀ column ∈ (Payload.ofList [("name", "Eve")]).columns,
      column ∉ (Payload.ofList [("id", "9")]).columns := by decide
  obtain ⟨hupdates, left, between, otherBetween, after, hpair, hswapped, hleft⟩ :=
    comm_of_apart (by decide) load_classDisk hpayload hcolumns hothers hspares
  obtain rfl : left = 1 := Nat.add_right_cancel hleft
  exact ⟨by decide, load_classDisk,
    hupdates (.ofList [("id", "9")]) (by decide) (fun _ ↦ hapart _) (by decide),
    between, otherBetween, after, hpair, hswapped⟩

end Change

end FlatTables
