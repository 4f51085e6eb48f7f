import FlatTables.Proofs.LastWriter

/-!
# What a query does to the disk

A query writes one file at most, and this is the file of its table (`Query.effect_of_execute`). A
query that fails, that selects, or that updates or deletes no row leaves every file as it is,
whatever the layout of the file. Every other query leaves the encoding of the loaded header and the
changed rows in the file of its table, which was there before, and all else as it is. So no query
makes or removes a file, and the file of a joined table is never written.

Any access to a file may be refused, and a refused write leaves the disk as it was. All this follows
from how a run ends (`Query.ends_execute`): the only write comes after every check, and it is the
last access.
-/

set_option autoImplicit false
set_option relaxedAutoImplicit false

namespace FlatTables

variable {query : Query} {config : Config} {disk : Disk}

/-! ### Answers that tell whether a file was written -/

namespace Query

/-- Nothing is written by a query that ends so: with a fault, with what a select returns, or with no
row updated or deleted. -/
def Untouched (query : Query) : Except Fault Answer → Prop
  | .error _ => True
  | .ok answer => query.operation = .select ∨ (query.operation ≠ .insert ∧ answer.affected = 0)

theorem untouched_of_select (hselect : query.operation = .select)
    (result : Except Fault Answer) : query.Untouched result := by
  cases result with
  | error fault => trivial
  | ok answer => exact Or.inl hselect

end Query

/-- The answer to a change tells whether the file was written. -/
theorem Change.untouched_answer_iff {change : Change}
    (hrequest : Change.requested? query = some (.ok change)) (number : Int) :
    query.Untouched (.ok (change.answer number)) ↔ change.writes number = false := by
  have hoperation := Change.operation_of_requested hrequest
  rw [Query.Untouched, hoperation]
  cases change with
  | insert payload => simp [Change.operation, Change.writes]
  | update payload filter =>
    simp [Change.operation, Change.writes, Change.answer, Answer.single]
  | delete filter => simp [Change.operation, Change.writes, Change.answer, Answer.single]

/-! ### How a query ends -/

namespace Query

/-- How a query ends: its result and the disk after it. -/
inductive Ends (query : Query) (config : Config) (disk : Disk) :
    Except Fault Answer → Disk → Prop
  /-- No file was written. -/
  | untouched {result : Except Fault Answer} (hresult : query.Untouched result) :
      Ends query config disk result disk
  /-- The file of the table was read, and holds the changed table now. -/
  | rewrote {name : String} {location : Location} {content : ByteArray} {change : Change}
      {table : Table} {rows : List Row} {number : Int}
      (htarget : query.table = some name)
      (hlocate : disk.locate (config.tablePath name) = .ok location)
      (hentry : disk.entry? location = some (.file content))
      (htable : (Table.ofContent config (config.tablePath name) (.ok content)).2 = .ok table)
      (hrequest : Change.requested? query = some (.ok change))
      (hworked : change.workedOut table = .ok (table.withRows rows, number))
      (hwrites : change.writes number = true) :
      Ends query config disk (.ok (change.answer number))
        (disk.put location (.file (table.withRows rows).text.toUTF8))

/-- A change of a loaded table ends the query that asked for it. -/
theorem ends_of_change {name : String} {change : Change} {table : Table}
    {refusal : Option FileFailure} {input : ByteArray} {refusals : List (Option FileFailure)}
    (htarget : query.table = some name)
    (hrequest : Change.requested? query = some (.ok change))
    (htable : (Table.ofContent config (config.tablePath name)
      (disk.readUnder refusal (config.tablePath name))).2 = .ok table) :
    let outcome := (change.on table).runUnder input refusals disk
    query.Ends config disk (outcome.result.2.map change.answer) outcome.disk := by
  intro outcome
  have hends := change.ends_on table input refusals disk
  change change.Ends table refusals.head?.join disk outcome.result outcome.disk at hends
  generalize outcome.result = result at hends ⊢
  generalize outcome.disk = after at hends ⊢
  cases hends with
  | stopped hworked => exact .untouched trivial
  | idle hworked hwrites =>
    exact .untouched ((Change.untouched_answer_iff hrequest _).mpr hwrites)
  | unwritten hworked hwrites hwrite => exact .untouched trivial
  | @written changed number next hworked hwrites hwrite =>
    obtain ⟨content, hcontent⟩ := Table.exists_content_of_ofContent htable
    have hread : disk.read (config.tablePath name) = .ok content := by
      cases refusal with
      | none => exact hcontent
      | some failure => cases hcontent
    obtain ⟨location, hlocate, hentry⟩ := Disk.exists_location_of_read hread
    rw [hcontent] at htable
    obtain ⟨hkept, hpath⟩ := Table.keptUnder_of_ofContent htable
    obtain ⟨rows, rfl, -⟩ := Change.workedOut_eq_ok hworked
    have hplaced : disk.write (config.tablePath name) (table.withRows rows).text.toUTF8 =
        .ok (disk.put location (.file (table.withRows rows).text.toUTF8)) :=
      Disk.write_of_locate hlocate hentry _
    have hsame : (table.withRows rows).path = config.tablePath name := hpath
    rw [hsame] at hwrite
    obtain rfl := Except.ok.inj (hplaced.symm.trans (Disk.write_of_writeUnder hwrite))
    exact .rewrote htarget hlocate hentry htable hrequest hworked hwrites

/-- Every run of a query ends in one of the two ways. -/
theorem ends_execute (query : Query) (config : Config) (input : ByteArray)
    (refusals : List (Option FileFailure)) (disk : Disk) :
    query.Ends config disk ((query.execute config).runUnder input refusals disk).result
      ((query.execute config).runUnder input refusals disk).disk := by
  cases hrequest : Change.requested? query with
  | none =>
    have hselect := Change.requested?_eq_none_iff.mp hrequest
    rw [Change.execute_of_select hselect, Procedure.runUnder]
    obtain ⟨hdisk, -⟩ := (query.meets_executeSelect config).runUnder input refusals disk
    rw [hdisk]
    exact .untouched (untouched_of_select hselect _)
  | some request =>
    rw [Change.execute_of_requested hrequest, Procedure.runUnder]
    cases htarget : query.table with
    | none =>
      have hfault : query.target = .error (.notReady query.operation .table) := by
        rw [target, htarget]
      rw [hfault]
      exact .untouched trivial
    | some name =>
      have hname : query.target = .ok name := by rw [target, htarget]
      rw [hname]
      cases request with
      | error fault => exact .untouched trivial
      | ok change =>
        have hexecute : Query.onSuccess (pure (.ok name)) (fun name ↦
            Query.onSuccess (pure (.ok change)) fun change ↦
              Query.onSuccess (Table.loadNamed config name) fun table ↦
                (change.on table).andThen fun found ↦ .done (found.2.map change.answer)) =
            Query.onSuccess (Table.loadNamed config name) fun table ↦
              (change.on table).andThen fun found ↦ .done (found.2.map change.answer) := rfl
        rw [hexecute, onSuccess, Procedure.bind_eq_andThen, Table.loadNamed,
          Table.runUnder_load_andThen]
        dsimp only
        cases htable : (Table.ofContent config (config.tablePath name)
            (disk.readUnder refusals.head?.join (config.tablePath name))).2 with
        | error fault => exact .untouched trivial
        | ok table =>
          dsimp only
          rw [Procedure.runUnder_map]
          exact ends_of_change htarget hrequest htable

/-! ### What a run leaves -/

section Ended

variable {result : Except Fault Answer} {after : Disk}

theorem Ends.eq_of_untouched (hends : query.Ends config disk result after)
    (hresult : query.Untouched result) : after = disk := by
  cases hends with
  | untouched _ => rfl
  | rewrote _ _ _ _ hrequest _ hwrites =>
    have hidle := (Change.untouched_answer_iff hrequest _).mp hresult
    rw [hwrites] at hidle
    cases hidle

/-- What stands at a location is as before, or it is the file of the table of a query for a
change. -/
theorem Ends.entry?_eq (hends : query.Ends config disk result after) (location : Location) :
    after.entry? location = disk.entry? location ∨
      (query.operation ≠ .select ∧
        ∃ name, query.table = some name ∧ disk.locate (config.tablePath name) = .ok location) := by
  cases hends with
  | untouched _ => exact Or.inl rfl
  | @rewrote name target content change table rows number htarget hlocate hentry _ hrequest =>
    by_cases hsame : location = target
    · have hchange : query.operation ≠ .select := by
        rw [Change.operation_of_requested hrequest]
        cases change <;> simp [Change.operation]
      exact Or.inr ⟨hchange, name, htarget, by rw [hsame, hlocate]⟩
    · have hroot := Disk.ne_nil_of_entry?_eq_file hentry
      exact Or.inl (Disk.entry?_put_of_ne disk hroot _ hsame)

/-- Files stay files and directories stay directories, and nothing is added. -/
theorem Ends.same_kind (hends : query.Ends config disk result after) (location : Location) :
    (after.entry? location = some .directory ↔ disk.entry? location = some .directory) ∧
      ((∃ content, after.entry? location = some (.file content)) ↔
        ∃ content, disk.entry? location = some (.file content)) := by
  cases hends with
  | untouched _ => exact ⟨Iff.rfl, Iff.rfl⟩
  | @rewrote name target content change table rows number _ _ hentry =>
    have hroot := Disk.ne_nil_of_entry?_eq_file hentry
    rw [Disk.entry?_put disk hroot]
    by_cases hsame : location = target
    · rw [if_pos hsame, hsame, hentry]
      simp
    · rw [if_neg hsame]
      exact ⟨Iff.rfl, Iff.rfl⟩

end Ended

/-- The effect of a query on the disk, whichever accesses are refused. A query that fails, selects,
or updates or deletes no row changes nothing. Any other query replaces the file that its table was
loaded from, by the encoding of the loaded header and the changed rows, and changes nothing else. No
query makes or removes a file, and the file of a joined table stays as it is, unless a query for a
change names the same file as its own table. -/
theorem effect_of_execute (query : Query) (config : Config) (input : ByteArray)
    (refusals : List (Option FileFailure)) (disk : Disk) :
    let outcome := (query.execute config).runUnder input refusals disk
    (query.Untouched outcome.result → outcome.disk = disk) ∧
    (¬ query.Untouched outcome.result → ∃ name location content table change rows number,
      query.table = some name ∧
      disk.locate (config.tablePath name) = .ok location ∧
      disk.entry? location = some (.file content) ∧
      ((Table.loadNamed config name).run input disk).result = .ok table ∧
      Change.requested? query = some (.ok change) ∧
      change.workedOut table = .ok (table.withRows rows, number) ∧
      outcome.result = .ok (change.answer number) ∧
      outcome.disk.entry? location = some (.file
        (Delimited.encode config.delimiter (table.sheet.header :: rows)).toUTF8) ∧
      ∀ other, other ≠ location → outcome.disk.entry? other = disk.entry? other) ∧
    (∀ location,
      (outcome.disk.entry? location = some .directory ↔
        disk.entry? location = some .directory) ∧
      ((∃ content, outcome.disk.entry? location = some (.file content)) ↔
        ∃ content, disk.entry? location = some (.file content))) ∧
    (∀ join location, query.join = some join →
      disk.locate (config.tablePath join.table) = .ok location →
      (query.operation = .select ∨
        ∀ name, query.table = some name → disk.locate (config.tablePath name) ≠ .ok location) →
      outcome.disk.entry? location = disk.entry? location) := by
  intro outcome
  have hends := query.ends_execute config input refusals disk
  change query.Ends config disk outcome.result outcome.disk at hends
  refine ⟨hends.eq_of_untouched, fun htouched ↦ ?_, hends.same_kind, ?_⟩
  · generalize outcome.result = result at hends htouched ⊢
    generalize outcome.disk = after at hends ⊢
    cases hends with
    | untouched hresult => exact absurd hresult htouched
    | @rewrote name location content change table rows number htarget hlocate hentry htable
        hrequest hworked _ =>
      have hread := Disk.read_of_locate hlocate hentry
      have hload : ((Table.loadNamed config name).run input disk).result = .ok table := by
        rw [Table.loadNamed, Table.run_load, hread, htable]
      have hroot := Disk.ne_nil_of_entry?_eq_file hentry
      have hdelimiter : table.delimiter = config.delimiter :=
        (Table.keptUnder_of_ofContent htable).1.delimiter_eq
      refine ⟨name, location, content, table, change, rows, number, htarget, hlocate, hentry,
        hload, hrequest, hworked, rfl, ?_, fun other hother ↦ ?_⟩
      · rw [Disk.entry?_put_self disk hroot, ← hdelimiter]
        rfl
      · exact Disk.entry?_put_of_ne disk hroot _ hother
  · intro join location _ _ hapart
    rcases hends.entry?_eq location with hsame | ⟨hchange, name, htarget, hlocate⟩
    · exact hsame
    · rcases hapart with hselect | hother
      · exact absurd hselect hchange
      · exact absurd hlocate (hother name htarget)

/-! ### Two files with layouts of their own -/

/-- A disk with two tables whose files have long line ends and a blank line. -/
def longLinedDisk : Disk :=
  { entries := [(["t.csv"], .file "id,name\r\n1,Ada\r\n\r\n".toUTF8),
      (["u.csv"], .file "key\r\n1\r\n".toUTF8)] }

/-- An update of the rows of a name, with a join that it has no use for. -/
def callEve (name : String) : Query :=
  { operation := .update, table := some "t", filter := some ⟨"name", name⟩,
    join := some ⟨"id", "u", "key"⟩, payload := some (.ofList [("name", "Eve")]) }

/-- An update that finds a row writes its own file anew and leaves the other one. One that finds
none leaves the layout of both, and so does one that is refused to write. -/
theorem effect_of_callEve :
    let outcome := ((callEve "Ada").execute {}).runUnder .empty [] longLinedDisk
    let refusals := [none, some (.system 28 "No space left on device")]
    ¬ (callEve "Ada").Untouched outcome.result ∧
      outcome.disk.entry? ["t.csv"] = some (.file "id,name\n1,Eve\n".toUTF8) ∧
      outcome.disk.entry? ["u.csv"] = some (.file "key\r\n1\r\n".toUTF8) ∧
      (((callEve "Bob").execute {}).runUnder .empty [] longLinedDisk).disk = longLinedDisk ∧
      (((callEve "Ada").execute {}).runUnder .empty refusals longLinedDisk).disk =
        longLinedDisk := by
  intro outcome refusals
  have hresult : outcome.result = .ok (.single .update "updated_rows" 1 1) := rfl
  have htouched : ¬ (callEve "Ada").Untouched outcome.result := by
    rw [hresult]
    simp [Untouched, callEve, Answer.single]
  obtain ⟨-, -, -, hjoined⟩ := effect_of_execute (callEve "Ada") {} .empty [] longLinedDisk
  have hother : outcome.disk.entry? ["u.csv"] = longLinedDisk.entry? ["u.csv"] := by
    refine hjoined ⟨"id", "u", "key"⟩ ["u.csv"] rfl rfl (Or.inr fun name hname ↦ ?_)
    cases hname
    have hown : longLinedDisk.locate (({} : Config).tablePath "t") = .ok ["t.csv"] := rfl
    rw [hown]
    simp
  have hidle := (effect_of_execute (callEve "Bob") {} .empty [] longLinedDisk).1
  have hrefused := (effect_of_execute (callEve "Ada") {} .empty refusals longLinedDisk).1
  exact ⟨htouched, rfl, hother, hidle (Or.inr ⟨by decide, rfl⟩), hrefused trivial⟩

end Query

end FlatTables
