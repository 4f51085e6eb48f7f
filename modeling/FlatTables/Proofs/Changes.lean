import FlatTables.Proofs.Results
import FlatTables.Proofs.SoundTables
import FlatTables.Query.Execute

/-!
# Changes

An insert, an update and a delete are one `Change` here, so that what holds of all three is stated
once. `Change.workedOut` is the part of a change that touches no file, and `Change.on_eq` says what
the whole of it does: it gives up with the table as it was, or it has a changed table, writes its
file unless no row was touched, and ends with the changed table whatever came of the write.

A changed table is sound if the table was (`Change.keptUnder_of_workedOut`), and it is the table
itself if no row was touched (`Change.eq_of_writes_eq_false`). The query that asks for a change
loads the table, makes the change and forgets the table (`Change.execute_query`); every query but a
select is of this kind (`Change.execute_of_requested`).
-/

set_option autoImplicit false
set_option relaxedAutoImplicit false

namespace FlatTables

/-- An insert, an update or a delete with its arguments. -/
inductive Change
  | insert (payload : Payload)
  | update (payload : Payload) (filter : Option Filter)
  | delete (filter : Option Filter)

namespace Change

/-- Makes the change. The number is the new id or the count of the rows that were touched. -/
def on (table : Table) : Change → Procedure (Table × Except Fault Int)
  | .insert payload => table.insert payload
  | .update payload filter => do
    let (table, count) ← table.update payload filter
    return (table, count.map Int.ofNat)
  | .delete filter => do
    let (table, count) ← table.delete filter
    return (table, count.map Int.ofNat)

/-- The changed table and the number, or the check that failed. -/
def workedOut (table : Table) : Change → Except Fault (Table × Int)
  | .insert payload => table.withInserted payload
  | .update payload filter =>
    (table.withUpdated payload filter).map fun (changed, count) ↦ (changed, Int.ofNat count)
  | .delete filter =>
    (table.withDeleted filter).map fun (changed, count) ↦ (changed, Int.ofNat count)

/-- Whether the file is written, by the number. -/
def writes (number : Int) : Change → Bool
  | .insert _ => true
  | .update _ _ | .delete _ => 0 < number

/-- What is reported in the end. -/
def event (number : Int) (name : String) : Change → Event
  | .insert _ => .inserted number name
  | .update _ _ => .updated number.toNat name
  | .delete _ => .deleted number.toNat name

/-- What is left to do when the file is written, or need not be. -/
def concluded (change : Change) (name : String) (changed : Table) (number : Int) :
    Except Fault Unit → Procedure (Table × Except Fault Int)
  | .error fault => .done (changed, .error fault)
  | .ok () => .report (change.event number name) (.done (changed, .ok number))

theorem settle_andThen (change : Change) (name : String) (changed : Table) (count : Nat)
    {event : Event} (hevent : event = change.event (Int.ofNat count) name)
    (hwrites : change.writes (Int.ofNat count) = decide (0 < count)) :
    ((changed.settle count event).andThen fun found ↦
        .done (found.1, found.2.map Int.ofNat)) =
      (if change.writes (Int.ofNat count) then changed.persist else .done (.ok ())).andThen
        (change.concluded name changed (Int.ofNat count)) := by
  subst event
  simp only [Table.settle, Procedure.bind_eq_andThen, Procedure.pure_eq_done, hwrites,
    decide_eq_true_eq]
  by_cases hcount : 0 < count
  · simp only [if_pos hcount, Procedure.andThen_assoc]
    refine congrArg (Procedure.andThen changed.persist) (funext fun written ↦ ?_)
    cases written <;> rfl
  · rw [if_neg hcount, if_neg hcount]
    rfl

/-- What a change does, all three of them alike. -/
theorem on_eq (change : Change) (table : Table) :
    change.on table =
      match change.workedOut table with
      | .error fault => .done (table, .error fault)
      | .ok (changed, number) =>
        (if change.writes number then changed.persist else .done (.ok ())).andThen
          (change.concluded table.sheet.name changed number) := by
  cases change with
  | insert payload =>
    simp only [on, workedOut, Table.insert, writes, if_true]
    cases table.withInserted payload with
    | error fault => rfl
    | ok worked =>
      refine congrArg (Procedure.andThen worked.1.persist) (funext fun written ↦ ?_)
      cases written <;> rfl
  | update payload filter =>
    simp only [on, workedOut, Table.update]
    cases table.withUpdated payload filter with
    | error fault => rfl
    | ok worked => exact settle_andThen (.update payload filter) _ _ _ rfl (by simp [writes])
  | delete filter =>
    simp only [on, workedOut, Table.delete]
    cases table.withDeleted filter with
    | error fault => rfl
    | ok worked => exact settle_andThen (.delete filter) _ _ _ rfl (by simp [writes])

end Change

/-! ### Changed tables -/

namespace Table

variable {table changed : Table}

theorem withInserted_eq_ok {payload : Payload} {id : Int}
    (hinserted : table.withInserted payload = .ok (changed, id)) :
    ∃ idIndex, table.columnIndex table.idColumn = .ok idIndex ∧ table.nextId? idIndex = some id ∧
      changed =
        table.withRows (table.sheet.rows ++ [newRow table.sheet.header idIndex id payload]) := by
  obtain ⟨idIndex, hcolumn, hrest⟩ := exists_of_bind_eq_ok hinserted
  obtain ⟨-, -, hrest⟩ := exists_of_bind_eq_ok hrest
  split at hrest
  · cases hrest
  · next hnext =>
    cases hrest
    exact ⟨idIndex, hcolumn, hnext, rfl⟩

/-- The values of a payload with the positions of their columns. -/
def assignments (table : Table) (payload : Payload) : Except Fault (List (Nat × String)) :=
  payload.entries.mapM fun (column, value) ↦ do return (← table.columnIndex column, value)

/-- An update finds its columns and the column of its filter, and then looks at the rows. -/
theorem withUpdated_eq (table : Table) (payload : Payload) (filter : Option Filter) :
    table.withUpdated payload filter = (do
      let assignments ← table.assignments payload
      let resolved ← table.resolve filter
      let rows := table.sheet.rows.map fun row ↦
        if selects resolved row then overwrite assignments row else row
      return (table.withRows rows, table.sheet.rows.countP (selects resolved))) := rfl

theorem withDeleted_eq (table : Table) (filter : Option Filter) :
    table.withDeleted filter = (do
      let resolved ← table.resolve filter
      let rows := table.sheet.rows.filter fun row ↦ !selects resolved row
      return (table.withRows rows, table.sheet.rows.countP (selects resolved))) := rfl

theorem withUpdated_eq_ok {payload : Payload} {filter : Option Filter} {count : Nat}
    (hupdated : table.withUpdated payload filter = .ok (changed, count)) :
    ∃ assignments resolved, table.assignments payload = .ok assignments ∧
      table.resolve filter = .ok resolved ∧
      changed = table.withRows (table.sheet.rows.map fun row ↦
        if selects resolved row then overwrite assignments row else row) ∧
      count = table.sheet.rows.countP (selects resolved) := by
  rw [withUpdated_eq] at hupdated
  obtain ⟨assignments, hassignments, hrest⟩ := exists_of_bind_eq_ok hupdated
  obtain ⟨resolved, hresolve, hrest⟩ := exists_of_bind_eq_ok hrest
  cases hrest
  exact ⟨assignments, resolved, hassignments, hresolve, rfl, rfl⟩

theorem withDeleted_eq_ok {filter : Option Filter} {count : Nat}
    (hdeleted : table.withDeleted filter = .ok (changed, count)) :
    ∃ resolved, table.resolve filter = .ok resolved ∧
      changed = table.withRows (table.sheet.rows.filter fun row ↦ !selects resolved row) ∧
      count = table.sheet.rows.countP (selects resolved) := by
  obtain ⟨resolved, hresolve, hrest⟩ := exists_of_bind_eq_ok hdeleted
  cases hrest
  exact ⟨resolved, hresolve, rfl, rfl⟩

theorem length_newRow (header : List String) (idIndex : Nat) (id : Int) (payload : Payload) :
    (newRow header idIndex id payload).length = header.length := by
  simp [newRow]

theorem length_overwrite (assignments : List (Nat × String)) :
    ∀ row : Row, (overwrite assignments row).length = row.length := by
  induction assignments with
  | nil => intro row; rfl
  | cons assignment assignments ih =>
    intro row
    exact (ih _).trans List.length_set

end Table

namespace Change

variable {change : Change} {table changed : Table} {number : Int}

/-- A changed table has other rows and is otherwise as before. Their width is that of the header
if it was, and they are the old ones if no row was touched. -/
theorem workedOut_eq_ok (hworked : change.workedOut table = .ok (changed, number)) :
    ∃ rows, changed = table.withRows rows ∧
      (table.Sound → ∀ row ∈ rows, row.length = table.sheet.header.length) ∧
      (change.writes number = false → rows = table.sheet.rows) := by
  cases change with
  | insert payload =>
    obtain ⟨idIndex, -, -, hchanged⟩ := Table.withInserted_eq_ok hworked
    refine ⟨_, hchanged, fun hsound row hrow ↦ ?_, fun h ↦ by simp [writes] at h⟩
    rcases List.mem_append.mp hrow with hrow | hrow
    · exact hsound.rows_length row hrow
    · rw [List.mem_singleton.mp hrow, Table.length_newRow]
  | update payload filter =>
    obtain ⟨worked, hupdated, hsame⟩ := exists_of_map_eq_ok hworked
    cases hsame
    obtain ⟨assignments, resolved, -, -, hchanged, hcount⟩ := Table.withUpdated_eq_ok hupdated
    refine ⟨_, hchanged, fun hsound row hrow ↦ ?_, fun hwrites ↦ ?_⟩
    · obtain ⟨old, hold, rfl⟩ := List.mem_map.mp hrow
      rw [apply_ite List.length, Table.length_overwrite, ite_self]
      exact hsound.rows_length old hold
    · have hnone : table.sheet.rows.countP (Table.selects resolved) = 0 := by
        simpa [writes, hcount] using hwrites
      refine (List.map_congr_left fun row hrow ↦ ?_).trans (List.map_id _)
      rw [if_neg (List.countP_eq_zero.mp hnone row hrow), id]
  | delete filter =>
    obtain ⟨worked, hdeleted, hsame⟩ := exists_of_map_eq_ok hworked
    cases hsame
    obtain ⟨resolved, -, hchanged, hcount⟩ := Table.withDeleted_eq_ok hdeleted
    refine ⟨_, hchanged, fun hsound row hrow ↦ ?_, fun hwrites ↦ ?_⟩
    · exact hsound.rows_length row (List.mem_filter.mp hrow).1
    · have hnone : table.sheet.rows.countP (Table.selects resolved) = 0 := by
        simpa [writes, hcount] using hwrites
      refine List.filter_eq_self.mpr fun row hrow ↦ ?_
      simpa using List.countP_eq_zero.mp hnone row hrow

/-- A change that touches no row has the table itself as its changed table. -/
theorem eq_of_writes_eq_false (hworked : change.workedOut table = .ok (changed, number))
    (hwrites : change.writes number = false) : changed = table := by
  obtain ⟨rows, rfl, -, hsame⟩ := workedOut_eq_ok hworked
  rw [hsame hwrites]
  rfl

/-- A change of a sound table makes a sound table that is kept in the same file. -/
theorem keptUnder_of_workedOut {config : Config} (htable : table.KeptUnder config)
    (hworked : change.workedOut table = .ok (changed, number)) :
    changed.KeptUnder config ∧ changed.path = table.path := by
  obtain ⟨rows, rfl, hwidth, -⟩ := workedOut_eq_ok hworked
  obtain ⟨hdelimiter, hidColumn, hname, hsound⟩ := htable
  exact ⟨⟨hdelimiter, hidColumn, hname, hsound.header_ne_nil, hsound.header_nodup, hwidth hsound⟩,
    rfl⟩

/-! ### How a change ends -/

/-- How a change of a table ends if the access is refused or not: the table that is kept with the
result, and the disk. -/
inductive Ends (change : Change) (table : Table) (refusal : Option FileFailure) (disk : Disk) :
    Table × Except Fault Int → Disk → Prop
  /-- A check fails. -/
  | stopped {fault : Fault} (hworked : change.workedOut table = .error fault) :
      Ends change table refusal disk (table, .error fault) disk
  /-- No row is touched. -/
  | idle {number : Int} (hworked : change.workedOut table = .ok (table, number))
      (hwrites : change.writes number = false) :
      Ends change table refusal disk (table, .ok number) disk
  /-- The file cannot be written. -/
  | unwritten {changed : Table} {number : Int} {failure : FileFailure}
      (hworked : change.workedOut table = .ok (changed, number))
      (hwrites : change.writes number = true)
      (hwrite : disk.writeUnder refusal changed.path changed.text.toUTF8 = .error failure) :
      Ends change table refusal disk (changed, .error (.file failure)) disk
  /-- The file is written. -/
  | written {changed : Table} {number : Int} {next : Disk}
      (hworked : change.workedOut table = .ok (changed, number))
      (hwrites : change.writes number = true)
      (hwrite : disk.writeUnder refusal changed.path changed.text.toUTF8 = .ok next) :
      Ends change table refusal disk (changed, .ok number) next

theorem ends_on (change : Change) (table : Table) (input : ByteArray)
    (refusals : List (Option FileFailure)) (disk : Disk) :
    change.Ends table refusals.head?.join disk
      ((change.on table).runUnder input refusals disk).result
      ((change.on table).runUnder input refusals disk).disk := by
  rw [on_eq]
  cases hworked : change.workedOut table with
  | error fault => exact .stopped hworked
  | ok worked =>
    obtain ⟨changed, number⟩ := worked
    dsimp only
    cases hwrites : change.writes number with
    | false =>
      obtain rfl := eq_of_writes_eq_false hworked hwrites
      exact .idle hworked hwrites
    | true =>
      rw [if_pos rfl, Table.persist_eq]
      simp only [Procedure.andThen, Procedure.runUnder]
      cases hwrite : disk.writeUnder refusals.head?.join changed.path changed.text.toUTF8 with
      | error failure => exact .unwritten hworked hwrites hwrite
      | ok next => exact .written hworked hwrites hwrite

/-! ### Changes asked for by queries -/

/-- What the change does. -/
def operation : Change → Operation
  | .insert _ => .insert
  | .update _ _ => .update
  | .delete _ => .delete

/-- The query that asks for the change on the table of a name. -/
def query (name : String) : Change → Query
  | .insert payload => { operation := .insert, table := some name, payload := some payload }
  | .update payload filter =>
    { operation := .update, table := some name, filter, payload := some payload }
  | .delete filter => { operation := .delete, table := some name, filter }

/-- The answer to that query, by the number. -/
def answer (number : Int) : Change → Answer
  | .insert _ => .single .insert "id" number 1
  | .update _ _ => .single .update "updated_rows" number number.toNat
  | .delete _ => .single .delete "deleted_rows" number number.toNat

theorem single_andThen (operation : Operation) (column : String)
    (counted : Procedure (Table × Except Fault Nat)) :
    (counted.andThen fun found ↦
        .done (found.2.map fun (count : Nat) ↦ Answer.single operation column count count)) =
      (counted.andThen fun found ↦ .done (found.1, found.2.map Int.ofNat)).andThen fun found ↦
        .done (found.2.map fun number ↦ .single operation column number number.toNat) := by
  rw [Procedure.andThen_assoc]
  refine congrArg (Procedure.andThen counted) (funext fun found ↦ ?_)
  obtain ⟨-, count⟩ := found
  cases count <;> rfl

/-- The change that a query asks for, if it is no select; it may lack the values to assign. -/
def requested? (query : Query) : Option (Except Fault Change) :=
  match query.operation with
  | .select => none
  | .insert => some (query.assigned.map .insert)
  | .update => some (query.assigned.map (.update · query.filter))
  | .delete => some (.ok (.delete query.filter))

/-- A query is for a select or asks for a change. -/
theorem requested?_eq_none_iff {query : Query} :
    requested? query = none ↔ query.operation = .select := by
  cases hoperation : query.operation <;> simp [requested?, hoperation]

theorem operation_of_requested {query : Query} {change : Change}
    (hrequest : requested? query = some (.ok change)) : query.operation = change.operation := by
  cases hoperation : query.operation with
  | select => simp [requested?, hoperation] at hrequest
  | insert =>
    simp only [requested?, hoperation, Option.some.injEq] at hrequest
    obtain ⟨payload, -, rfl⟩ := exists_of_map_eq_ok hrequest
    rfl
  | update =>
    simp only [requested?, hoperation, Option.some.injEq] at hrequest
    obtain ⟨payload, -, rfl⟩ := exists_of_map_eq_ok hrequest
    rfl
  | delete =>
    simp only [requested?, hoperation, Option.some.injEq, Except.ok.injEq] at hrequest
    rw [← hrequest]
    rfl

/-- A select reports itself and goes through its stages. -/
theorem execute_of_select {query : Query} (hselect : query.operation = .select)
    (config : Config) :
    query.execute config =
      .report (.executing query.operation query.table) (query.executeSelect config) := by
  rw [Query.execute, hselect]
  rfl

/-- A query for a change reports itself, loads its table, makes the change and forgets the
table. -/
theorem execute_of_requested {query : Query} {request : Except Fault Change}
    (hrequest : requested? query = some request) (config : Config) :
    query.execute config =
      .report (.executing query.operation query.table)
        (Query.onSuccess (pure query.target) fun name ↦
          Query.onSuccess (pure request) fun change ↦
            Query.onSuccess (Table.loadNamed config name) fun table ↦
              (change.on table).andThen fun found ↦ .done (found.2.map change.answer)) := by
  obtain ⟨operation, target, projection, filter, join, sort, payload⟩ := query
  cases operation with
  | select => cases hrequest
  | insert =>
    cases hrequest
    refine congrArg (Procedure.report _) (congrArg (Query.onSuccess _) (funext fun name ↦ ?_))
    cases payload <;> rfl
  | update =>
    cases hrequest
    refine congrArg (Procedure.report _) (congrArg (Query.onSuccess _) (funext fun name ↦ ?_))
    cases payload with
    | none => rfl
    | some payload =>
      exact congrArg (Query.onSuccess (Table.loadNamed config name))
        (funext fun table ↦ single_andThen .update "updated_rows" (table.update payload filter))
  | delete =>
    cases hrequest
    refine congrArg (Procedure.report _) (congrArg (Query.onSuccess _) (funext fun name ↦ ?_))
    exact congrArg (Query.onSuccess (Table.loadNamed config name))
      (funext fun table ↦ single_andThen .delete "deleted_rows" (table.delete filter))

/-- The query for a change on the table of a name asks for this change. -/
theorem execute_query (change : Change) (config : Config) (name : String) :
    (change.query name).execute config =
      .report (.executing change.operation (some name))
        (Query.onSuccess (Table.loadNamed config name) fun table ↦
          (change.on table).andThen fun found ↦ .done (found.2.map change.answer)) := by
  have hrequest : requested? (change.query name) = some (.ok change) := by cases change <;> rfl
  rw [execute_of_requested hrequest]
  cases change <;> rfl

end Change

end FlatTables
