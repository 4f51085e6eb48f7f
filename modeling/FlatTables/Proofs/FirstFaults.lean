import FlatTables.Proofs.NextIds
import FlatTables.Proofs.RefusedQueries

/-!
# The first fault

A query is answered by the fault of the first of its checks that fails, or succeeds if none fails
(`Query.first_fault`). `Query.checks` lists the checks of a query in their order, each with the
fault that it finds. A column is looked for in a heading only, so a column that is missing is
reported for a table without rows as well. The rows of a loaded table matter to two checks: an
insert needs a next id, and an update or a delete writes its file if a row meets the filter.

That a result has the first fault of a list of checks goes from the parts of a computation to the
whole (`HasFirstFault.bind`), so the list is put together along the stages of the query.
-/

set_option autoImplicit false
set_option relaxedAutoImplicit false

namespace FlatTables

/-! ### Results and checks -/

section Checks

variable {ε δ α β : Type}

/-- The fault of a result, if it is one. -/
def faultOf? : Except ε α → Option ε
  | .error fault => some fault
  | .ok _ => none

/-- The result is the first fault that the checks find, and no fault if they find none. -/
def HasFirstFault (result : Except ε α) (checks : List (Option ε)) : Prop :=
  faultOf? result = checks.findSome? id

/-- A check that gives a value for the checks behind it. If it fails there are none of them. -/
def checked (found : Except ε α) (rest : α → List (Option ε)) : List (Option ε) :=
  match found with
  | .error fault => [some fault]
  | .ok value => none :: rest value

theorem checked_map (found : Except ε α) (change : α → β) (rest : β → List (Option ε)) :
    checked (found.map change) rest = checked found fun value ↦ rest (change value) := by
  cases found <;> rfl

namespace HasFirstFault

variable {result : Except ε α} {checks others : List (Option ε)}

theorem of_ok (value : α) : HasFirstFault (.ok value : Except ε α) [] := rfl

theorem bind {following : α → Except ε β} (hfirst : HasFirstFault result checks)
    (hrest : ∀ value, result = .ok value → HasFirstFault (following value) others) :
    HasFirstFault (result >>= following) (checks ++ others) := by
  unfold HasFirstFault at hfirst ⊢
  rw [List.findSome?_append, ← hfirst]
  cases result with
  | error fault => rfl
  | ok value => exact hrest value rfl

theorem bind_checked {following : α → Except ε β} {rest : α → List (Option ε)}
    (hrest : ∀ value, result = .ok value → HasFirstFault (following value) (rest value)) :
    HasFirstFault (result >>= following) (checked result rest) := by
  cases result with
  | error fault => rfl
  | ok value => exact hrest value rfl

theorem map (hfirst : HasFirstFault result checks) (change : α → β) :
    HasFirstFault (result.map change) checks := by
  unfold HasFirstFault at hfirst ⊢
  rw [← hfirst]
  cases result <;> rfl

theorem mapError (hfirst : HasFirstFault result checks) (change : ε → δ) :
    HasFirstFault (result.mapError change) (checks.map (Option.map change)) := by
  unfold HasFirstFault at hfirst ⊢
  have hfound : (checks.map (Option.map change)).findSome? id =
      (checks.findSome? id).map change := by
    rw [List.findSome?_map, List.map_findSome?]
    rfl
  rw [hfound, ← hfirst]
  cases result <;> rfl

theorem mapM {ι : Type} {check : ι → Except ε β} {fault? : ι → Option ε} (items : List ι)
    (hitems : ∀ item ∈ items, HasFirstFault (check item) [fault? item]) :
    HasFirstFault (items.mapM check) (items.map fault?) := by
  induction items with
  | nil => rfl
  | cons item items ih =>
    obtain ⟨hitem, hrest⟩ := List.forall_mem_cons.mp hitems
    rw [List.mapM_cons, List.map_cons, ← List.singleton_append]
    refine hitem.bind fun value _ ↦ ?_
    rw [← List.append_nil (items.map fault?)]
    exact (ih hrest).bind fun values _ ↦ of_ok _

/-- Without a fault no check has failed. -/
theorem exists_ok_iff (hfirst : HasFirstFault result checks) :
    (∃ value, result = .ok value) ↔ ∀ check ∈ checks, check = none := by
  have hnone : checks.findSome? id = none ↔ ∀ check ∈ checks, check = none :=
    List.findSome?_eq_none_iff
  rw [← hnone, ← hfirst]
  cases result with
  | error fault => simp [faultOf?]
  | ok value => simp [faultOf?]

/-- A fault is that of a check behind checks that have passed. -/
theorem eq_error_iff (hfirst : HasFirstFault result checks) {fault : ε} :
    result = .error fault ↔ ∃ passed rest, checks = passed ++ some fault :: rest ∧
      ∀ check ∈ passed, check = none := by
  have hfault : result = .error fault ↔ faultOf? result = some fault := by
    cases result with
    | error found => simp [faultOf?]
    | ok value => simp [faultOf?]
  rw [hfault, hfirst, List.findSome?_eq_some_iff]
  constructor
  · rintro ⟨passed, check, rest, rfl, rfl, hpassed⟩
    exact ⟨passed, rest, rfl, hpassed⟩
  · rintro ⟨passed, rest, rfl, hpassed⟩
    exact ⟨passed, some fault, rest, rfl, rfl, hpassed⟩

end HasFirstFault

end Checks

/-! ### Columns -/

/-- The name and the columns of a sheet. -/
structure Heading where
  name : String
  columns : List String

/-- The heading of a sheet. -/
def Sheet.heading (sheet : Sheet) : Heading :=
  ⟨sheet.name, sheet.header⟩

namespace Heading

/-- What is wrong with a column that a heading does not have. -/
def missing? (heading : Heading) (column : String) : Option UnknownColumn :=
  if column ∈ heading.columns then none else some ⟨column, heading.name⟩

/-- The checks that the columns are there, in their order. -/
def checks (heading : Heading) (columns : List String) : List (Option Fault) :=
  columns.map fun column ↦ (heading.missing? column).map .ofUnknownColumn

theorem checks_eq_none_iff {heading : Heading} {columns : List String} :
    (∀ check ∈ heading.checks columns, check = none) ↔
      ∀ column ∈ columns, column ∈ heading.columns := by
  unfold checks missing?
  rw [List.forall_mem_map]
  refine forall₂_congr fun column _ ↦ ?_
  split <;> simp [*]

/-- The heading of a join. -/
def join (left right : Heading) : Heading :=
  ⟨left.name ++ " JOIN " ++ right.name, Sheet.joinHeader left.columns right.columns⟩

end Heading

/-- The columns of a filter. -/
def Filter.columns (filter : Option Filter) : List String :=
  filter.toList.map Filter.column

/-- The columns of an ordering. -/
def OrderBy.columns (order : Option OrderBy) : List String :=
  order.toList.map OrderBy.column

/-- The columns that a projection lists. -/
def Projection.columnNames : Projection → List String
  | .all => []
  | .columns names => names

namespace Sheet

variable {sheet found : Sheet}

theorem hasFirstFault_columnIndex (sheet : Sheet) (column : String) :
    HasFirstFault (sheet.columnIndex column) [sheet.heading.missing? column] := by
  by_cases hcolumn : column ∈ sheet.header
  · rw [columnIndex_of_mem hcolumn]
    simp [HasFirstFault, faultOf?, Heading.missing?, heading, hcolumn]
  · have hmissing : sheet.columnIndex column = .error ⟨column, sheet.name⟩ := by
      rw [columnIndex, List.idxOf?_eq_none_iff.mpr hcolumn]
    rw [hmissing]
    simp [HasFirstFault, faultOf?, Heading.missing?, heading, hcolumn]

theorem hasFirstFault_filter (sheet : Sheet) (condition : Filter) :
    HasFirstFault (sheet.filter condition) [sheet.heading.missing? condition.column] :=
  (sheet.hasFirstFault_columnIndex condition.column).bind fun _ _ ↦ .of_ok _

theorem heading_of_filter {condition : Filter} (hfilter : sheet.filter condition = .ok found) :
    found.heading = sheet.heading := by
  obtain ⟨index, -, hdone⟩ := exists_of_bind_eq_ok hfilter
  cases hdone
  rfl

theorem hasFirstFault_sort (sheet : Sheet) (order : OrderBy) :
    HasFirstFault (sheet.sort order) [sheet.heading.missing? order.column] :=
  (sheet.hasFirstFault_columnIndex order.column).bind fun _ _ ↦ .of_ok _

theorem heading_of_sort {order : OrderBy} (hsort : sheet.sort order = .ok found) :
    found.heading = sheet.heading := by
  obtain ⟨index, -, hdone⟩ := exists_of_bind_eq_ok hsort
  cases hdone
  rfl

theorem hasFirstFault_project (sheet : Sheet) (projection : Projection) :
    HasFirstFault (sheet.project projection)
      (projection.columnNames.map sheet.heading.missing?) := by
  cases projection with
  | all => exact .of_ok sheet
  | columns names =>
    rw [← List.append_nil (List.map _ _)]
    refine HasFirstFault.bind (.mapM names fun name _ ↦ ?_) fun _ _ ↦ .of_ok _
    exact sheet.hasFirstFault_columnIndex name

theorem hasFirstFault_join (left right : Sheet) (column otherColumn : String) :
    HasFirstFault (left.join right column otherColumn)
      [left.heading.missing? column, right.heading.missing? otherColumn] :=
  (left.hasFirstFault_columnIndex column).bind fun _ _ ↦
    (right.hasFirstFault_columnIndex otherColumn).bind fun _ _ ↦ .of_ok _

theorem heading_of_join {left right : Sheet} {column otherColumn : String}
    (hjoin : left.join right column otherColumn = .ok found) :
    found.heading = left.heading.join right.heading := by
  obtain ⟨leftIndex, -, hrest⟩ := exists_of_bind_eq_ok hjoin
  obtain ⟨rightIndex, -, hdone⟩ := exists_of_bind_eq_ok hrest
  cases hdone
  rfl

end Sheet

theorem Table.hasFirstFault_columnIndex (table : Table) (column : String) :
    HasFirstFault (table.columnIndex column) (table.sheet.heading.checks [column]) :=
  (table.sheet.hasFirstFault_columnIndex column).mapError Fault.ofUnknownColumn

/-! ### Checks of changes -/

/-- A file that can be read can be written, unless that is refused. -/
theorem Disk.faultOf?_writeUnder {disk : Disk} {path : String} {content : ByteArray}
    (hread : disk.read path = .ok content) (refusal : Option FileFailure) (text : ByteArray) :
    faultOf? (disk.writeUnder refusal path text) = refusal := by
  cases refusal with
  | none =>
    obtain ⟨next, hwrite⟩ := write_of_read hread text
    rw [writeUnder, hwrite]
    rfl
  | some failure => rfl

namespace Table

variable {table : Table} {payload : Payload} {filter : Option Filter}

/-- The check that there is a next id: the greatest integer among the ids, if there is one, and the
one after it are 64-bit integers. -/
def usedUp? (table : Table) : Option Fault :=
  match following? table.idNumbers with
  | none => some (.malformed table.path 0 .noNextId)
  | some _ => none

theorem usedUp?_eq_none_iff :
    table.usedUp? = none ↔ ∃ id, following? table.idNumbers = some id := by
  unfold usedUp?
  cases following? table.idNumbers <;> simp

theorem hasFirstFault_withInserted (table : Table) (payload : Payload) :
    HasFirstFault (table.withInserted payload)
      (table.sheet.heading.checks (table.idColumn :: payload.columns) ++ [table.usedUp?]) := by
  refine (table.hasFirstFault_columnIndex table.idColumn).bind fun idIndex hindex ↦ ?_
  refine HasFirstFault.bind (.mapM payload.columns fun column _ ↦
    table.hasFirstFault_columnIndex column) fun _ _ ↦ ?_
  obtain ⟨hcolumn, rfl⟩ := columnIndex_eq_ok_iff.mp hindex
  unfold usedUp?
  rw [nextId?_eq hcolumn]
  cases following? table.idNumbers with
  | none => rfl
  | some id => rfl

theorem hasFirstFault_assignments (table : Table) (payload : Payload) :
    HasFirstFault (table.assignments payload) (table.sheet.heading.checks payload.columns) := by
  rw [Heading.checks, Payload.columns, List.map_map]
  exact .mapM payload.entries fun entry _ ↦
    (table.hasFirstFault_columnIndex entry.1).bind fun _ _ ↦ .of_ok _

theorem hasFirstFault_resolve (table : Table) (filter : Option Filter) :
    HasFirstFault (table.resolve filter)
      (table.sheet.heading.checks (Filter.columns filter)) := by
  cases filter with
  | none => exact .of_ok _
  | some condition =>
    exact (table.hasFirstFault_columnIndex condition.column).bind fun _ _ ↦ .of_ok _

/-- A filter that is resolved selects the rows that meet it. -/
theorem selects_of_resolve {resolved : Option (Nat × String)}
    (hresolve : table.resolve filter = .ok resolved) :
    selects resolved = fun row ↦ row.meets table.sheet.header filter := by
  have hcolumns : ∀ condition ∈ filter, condition.column ∈ table.sheet.header := by
    rintro condition rfl
    obtain ⟨index, hindex, -⟩ := exists_of_bind_eq_ok hresolve
    exact (columnIndex_eq_ok_iff.mp hindex).1
  obtain ⟨found, hfound, hselects⟩ := exists_resolve_of_mem hcolumns
  obtain rfl := Except.ok.inj (hfound.symm.trans hresolve)
  exact hselects

end Table

namespace Change

variable {change : Change} {table changed : Table} {number : Int}

/-- The checks that come before a change is made. -/
def preliminaries (table : Table) : Change → List (Option Fault)
  | .insert payload =>
    table.sheet.heading.checks (table.idColumn :: payload.columns) ++ [table.usedUp?]
  | .update payload filter =>
    table.sheet.heading.checks payload.columns ++
      table.sheet.heading.checks (Filter.columns filter)
  | .delete filter => table.sheet.heading.checks (Filter.columns filter)

/-- Whether there is a row to write or to remove. -/
def touches (table : Table) : Change → Bool
  | .insert _ => true
  | .update _ filter | .delete filter =>
    table.sheet.rows.any fun row ↦ row.meets table.sheet.header filter

/-- The checks of a change of a table, the write of its file being refused or not. A file that is
not touched is not written. -/
def checks (refusal : Option FileFailure) (table : Table) (change : Change) :
    List (Option Fault) :=
  change.preliminaries table ++ [if change.touches table then refusal.map .file else none]

theorem hasFirstFault_workedOut (table : Table) (change : Change) :
    HasFirstFault (change.workedOut table) (change.preliminaries table) := by
  cases change with
  | insert payload => exact table.hasFirstFault_withInserted payload
  | update payload filter =>
    refine HasFirstFault.map ?_ _
    refine (table.hasFirstFault_assignments payload).bind fun assignments _ ↦ ?_
    rw [← List.append_nil (Heading.checks _ _)]
    exact (table.hasFirstFault_resolve filter).bind fun _ _ ↦ .of_ok _
  | delete filter =>
    refine HasFirstFault.map ?_ _
    rw [preliminaries, ← List.append_nil (Heading.checks _ _)]
    exact (table.hasFirstFault_resolve filter).bind fun _ _ ↦ .of_ok _

/-- A change that is worked out is written if it touches a row. -/
theorem writes_eq_touches (hworked : change.workedOut table = .ok (changed, number)) :
    change.writes number = change.touches table := by
  have hcount : ∀ {filter resolved}, table.resolve filter = .ok resolved →
      decide (0 < Int.ofNat (table.sheet.rows.countP (Table.selects resolved))) =
        table.sheet.rows.any fun row ↦ row.meets table.sheet.header filter := by
    intro filter resolved hresolve
    rw [Table.selects_of_resolve hresolve, Bool.eq_iff_iff]
    simp [List.countP_pos_iff]
  cases change with
  | insert payload => rfl
  | update payload filter =>
    obtain ⟨worked, hupdated, hsame⟩ := exists_of_map_eq_ok hworked
    cases hsame
    obtain ⟨assignments, resolved, -, hresolve, -, hnumber⟩ := Table.withUpdated_eq_ok hupdated
    rw [writes, hnumber]
    exact hcount hresolve
  | delete filter =>
    obtain ⟨worked, hdeleted, hsame⟩ := exists_of_map_eq_ok hworked
    cases hsame
    obtain ⟨resolved, hresolve, -, hnumber⟩ := Table.withDeleted_eq_ok hdeleted
    rw [writes, hnumber]
    exact hcount hresolve

/-- A change of a table whose file can be read has the fault of its first check. -/
theorem hasFirstFault_on {disk : Disk} {content : ByteArray}
    (hread : disk.read table.path = .ok content) (change : Change) (input : ByteArray)
    (refusals : List (Option FileFailure)) :
    HasFirstFault ((change.on table).runUnder input refusals disk).result.2
      (change.checks refusals.head?.join table) := by
  have hends := change.ends_on table input refusals disk
  generalize ((change.on table).runUnder input refusals disk).result = result at hends ⊢
  generalize ((change.on table).runUnder input refusals disk).disk = after at hends
  generalize refusals.head?.join = refusal at hends ⊢
  have hrefusal : ∀ {changed number}, change.workedOut table = .ok (changed, number) →
      refusal = faultOf? (disk.writeUnder refusal changed.path changed.text.toUTF8) := by
    intro changed number hworked
    obtain ⟨rows, rfl, -⟩ := workedOut_eq_ok hworked
    exact (Disk.faultOf?_writeUnder hread refusal (table.withRows rows).text.toUTF8).symm
  have hresult : result.2 = change.workedOut table >>= fun worked ↦
      match if change.touches table then refusal.map Fault.file else none with
      | some fault => .error fault
      | none => .ok worked.2 := by
    cases hends with
    | stopped hworked =>
      rw [hworked]
      rfl
    | idle hworked hwrites =>
      rw [hworked, ← writes_eq_touches hworked, hwrites]
      rfl
    | unwritten hworked hwrites hwrite =>
      rw [hworked, ← writes_eq_touches hworked, hwrites, hrefusal hworked, hwrite]
      rfl
    | written hworked hwrites hwrite =>
      rw [hworked, ← writes_eq_touches hworked, hwrites, hrefusal hworked, hwrite]
      rfl
  rw [hresult]
  refine (change.hasFirstFault_workedOut table).bind fun worked _ ↦ ?_
  cases if change.touches table then refusal.map Fault.file else none with
  | none => rfl
  | some fault => rfl

end Change

/-! ### Checks of queries -/

namespace Query

variable {query : Query} {config : Config} {input : ByteArray}
  {refusals : List (Option FileFailure)} {disk : Disk}

/-- The checks of the columns that a select names, in the heading of its rows. -/
def columnChecks (query : Query) (heading : Heading) : List (Option Fault) :=
  heading.checks (Filter.columns query.filter) ++
    (heading.checks (OrderBy.columns query.sort) ++
      heading.checks query.projection.columnNames)

/-- The checks of a query in their order, each with the fault that it finds: whether the query has
the clauses that it needs, whether its tables load, and what the tables are looked at for. The first
refusal meets the access to the table, and the second one that to the joined table or the write. -/
def checks (query : Query) (config : Config) (refusals : List (Option FileFailure)) (disk : Disk) :
    List (Option Fault) :=
  checked query.target fun name ↦
    let loaded := Table.storedUnder config disk refusals.head?.join name
    let refusal := refusals.tail.head?.join
    match query.operation with
    | .select =>
      checked loaded fun table ↦
        match query.join with
        | none => query.columnChecks table.sheet.heading
        | some join =>
          checked (Table.storedUnder config disk refusal join.table) fun other ↦
            table.sheet.heading.checks [join.column] ++
              (other.sheet.heading.checks [join.otherColumn] ++
                query.columnChecks (table.sheet.heading.join other.sheet.heading))
    | .insert =>
      checked query.assigned fun payload ↦
        checked loaded fun table ↦ (Change.insert payload).checks refusal table
    | .update =>
      checked query.assigned fun payload ↦
        checked loaded fun table ↦ (Change.update payload query.filter).checks refusal table
    | .delete => checked loaded fun table ↦ (Change.delete query.filter).checks refusal table

theorem hasFirstFault_kept (sheet : Sheet) (filter : Option Filter) :
    HasFirstFault (kept sheet filter) (sheet.heading.checks (Filter.columns filter)) := by
  cases filter with
  | none => exact .of_ok sheet
  | some condition =>
    exact (sheet.hasFirstFault_filter condition).mapError Fault.ofUnknownColumn

theorem heading_of_kept {sheet found : Sheet} {filter : Option Filter}
    (hkept : kept sheet filter = .ok found) : found.heading = sheet.heading := by
  cases filter with
  | none =>
    cases hkept
    rfl
  | some condition =>
    exact Sheet.heading_of_filter (eq_ok_of_mapError hkept)

theorem hasFirstFault_arrange (query : Query) (sheet : Sheet) :
    HasFirstFault ((query.arrange sheet).mapError .ofUnknownColumn)
      (sheet.heading.checks (OrderBy.columns query.sort) ++
        sheet.heading.checks query.projection.columnNames) := by
  have harrange : HasFirstFault (query.arrange sheet)
      ((OrderBy.columns query.sort).map sheet.heading.missing? ++
        query.projection.columnNames.map sheet.heading.missing?) := by
    unfold arrange
    cases query.sort with
    | none => exact sheet.hasFirstFault_project _
    | some order =>
      refine (sheet.hasFirstFault_sort order).bind fun sorted hsort ↦ ?_
      rw [← Sheet.heading_of_sort hsort]
      exact sorted.hasFirstFault_project _
  have hfaults := harrange.mapError Fault.ofUnknownColumn
  rwa [List.map_append, List.map_map, List.map_map] at hfaults

/-- From the rows of its table, or of its join, a select goes on through its columns. -/
theorem hasFirstFault_restrict (query : Query) (rows : Sheet) :
    HasFirstFault ((onSuccess (restrict query.filter rows) fun kept ↦
        onSuccess (pure ((query.arrange kept).mapError .ofUnknownColumn)) fun projected ↦ do
          Procedure.log (.selected projected.name projected.rows.length)
          return .ok (Answer.ofSheet projected)).runUnder input refusals disk).result
      (query.columnChecks rows.heading) := by
  rw [result_onSuccess_of_reports (reports_restrict query.filter rows)]
  refine (hasFirstFault_kept rows query.filter).bind fun restricted hkept ↦ ?_
  rw [result_onSuccess_of_reports (Procedure.reports_pure _), ← heading_of_kept hkept,
    ← List.append_nil (_ ++ _)]
  exact (query.hasFirstFault_arrange restricted).bind fun projected _ ↦ .of_ok _

theorem hasFirstFault_executeSelect (query : Query) :
    HasFirstFault ((query.executeSelect config).runUnder input refusals disk).result
      (checked query.target fun name ↦
        checked (Table.storedUnder config disk refusals.head?.join name) fun table ↦
          match query.join with
          | none => query.columnChecks table.sheet.heading
          | some join =>
            checked (Table.storedUnder config disk refusals.tail.head?.join join.table)
              fun other ↦ table.sheet.heading.checks [join.column] ++
                (other.sheet.heading.checks [join.otherColumn] ++
                  query.columnChecks (table.sheet.heading.join other.sheet.heading))) := by
  rw [executeSelect, result_onSuccess_of_reports (Procedure.reports_pure _)]
  refine HasFirstFault.bind_checked fun name _ ↦ ?_
  rw [result_onSuccess_loadNamed]
  refine HasFirstFault.bind_checked fun table _ ↦ ?_
  cases query.join with
  | none =>
    rw [source, result_onSuccess_of_reports (Procedure.reports_pure _)]
    exact query.hasFirstFault_restrict table.sheet
  | some join =>
    rw [source, onSuccess_onSuccess, result_onSuccess_loadNamed]
    refine HasFirstFault.bind_checked fun other _ ↦ ?_
    rw [result_onSuccess_of_reports (Sheet.reports_joinReported _ _ _ _)]
    have hjoin := (table.sheet.hasFirstFault_join other.sheet join.column
      join.otherColumn).mapError Fault.ofUnknownColumn
    refine hjoin.bind fun rows hrows ↦ ?_
    have hheading : rows.heading = table.sheet.heading.join other.sheet.heading :=
      Sheet.heading_of_join (eq_ok_of_mapError hrows)
    rw [← hheading]
    exact query.hasFirstFault_restrict rows

theorem hasFirstFault_of_requested {request : Except Fault Change}
    (hrequest : Change.requested? query = some request) :
    HasFirstFault ((query.execute config).runUnder input refusals disk).result
      (checked query.target fun name ↦ checked request fun change ↦
        checked (Table.storedUnder config disk refusals.head?.join name) fun table ↦
          change.checks refusals.tail.head?.join table) := by
  rw [Change.execute_of_requested hrequest, Procedure.runUnder]
  dsimp only
  rw [result_onSuccess_of_reports (Procedure.reports_pure _)]
  refine HasFirstFault.bind_checked fun name _ ↦ ?_
  rw [result_onSuccess_of_reports (Procedure.reports_pure _)]
  refine HasFirstFault.bind_checked fun change _ ↦ ?_
  rw [result_onSuccess_loadNamed]
  refine HasFirstFault.bind_checked fun table hstored ↦ ?_
  rw [Procedure.runUnder_map]
  obtain ⟨-, hreflects⟩ := Table.reflects_of_storedUnder hstored
  obtain ⟨content, hread⟩ := Table.exists_content_of_ofContent hreflects
  exact (change.hasFirstFault_on hread input refusals.tail).map _

theorem hasFirstFault_execute (query : Query) (config : Config) (input : ByteArray)
    (refusals : List (Option FileFailure)) (disk : Disk) :
    HasFirstFault ((query.execute config).runUnder input refusals disk).result
      (query.checks config refusals disk) := by
  unfold checks
  cases hoperation : query.operation with
  | select =>
    rw [Change.execute_of_select hoperation]
    exact query.hasFirstFault_executeSelect
  | insert =>
    have hrequest : Change.requested? query = some (query.assigned.map .insert) := by
      rw [Change.requested?, hoperation]
    simpa only [checked_map] using hasFirstFault_of_requested hrequest
  | update =>
    have hrequest : Change.requested? query =
        some (query.assigned.map (.update · query.filter)) := by
      rw [Change.requested?, hoperation]
    simpa only [checked_map] using hasFirstFault_of_requested hrequest
  | delete =>
    have hrequest : Change.requested? query = some (.ok (.delete query.filter)) := by
      rw [Change.requested?, hoperation]
    rw [HasFirstFault, hasFirstFault_of_requested hrequest]
    cases query.target <;> rfl

/-- What a query is answered with, on any disk and whichever accesses are refused. It succeeds
exactly if all its checks pass. It fails with a fault exactly if this is the fault of a check that
comes behind none but passed ones. -/
theorem first_fault (query : Query) (config : Config) (input : ByteArray)
    (refusals : List (Option FileFailure)) (disk : Disk) :
    let result := ((query.execute config).runUnder input refusals disk).result
    let checks := query.checks config refusals disk
    ((∃ answer, result = .ok answer) ↔ ∀ check ∈ checks, check = none) ∧
      ∀ fault, result = .error fault ↔ ∃ passed rest,
        checks = passed ++ some fault :: rest ∧ ∀ check ∈ passed, check = none := by
  intro result checks
  have hfirst : HasFirstFault result checks :=
    query.hasFirstFault_execute config input refusals disk
  exact ⟨hfirst.exists_ok_iff, fun fault ↦ hfirst.eq_error_iff⟩

/-- The columns are looked for in a table without rows as well, that of the ordering first. -/
example :
    let query : Query :=
      { operation := .select, table := some "t", projection := .columns ["none"],
        sort := some ⟨"rank", .ascending⟩ }
    let disk : Disk := { entries := [(["t.csv"], .file "id,name\n".toUTF8)] }
    ((query.execute {}).runUnder .empty [] disk).result = .error (.unknownColumn "rank" "t") :=
  rfl

end Query

end FlatTables
