import FlatTables.Proofs.NamedChanges
import FlatTables.Proofs.SelectRuns

/-!
# Queries whose accesses may be refused

A query reads the file of its table first, and what it does then is what the table in this file asks
for. This is so whichever of its accesses are refused (`Query.runUnder_onSuccess_loadNamed`). A
stage that only reports makes no access (`Procedure.Reports`).

A query for a change leaves a file that loads, whether it succeeds or fails: as the table from
before if it failed, and as the changed table otherwise (`Change.reload_cases`).
-/

set_option autoImplicit false
set_option relaxedAutoImplicit false

namespace FlatTables

/-- The table that the file of a name holds, unless reading it is refused. -/
def Table.storedUnder (config : Config) (disk : Disk) (refusal : Option FileFailure)
    (name : String) : Except Fault Table :=
  (ofContent config (config.tablePath name) (disk.readUnder refusal (config.tablePath name))).2

/-! ### Stages of a run -/

section Runs

variable {α β : Type} {input : ByteArray} {config : Config} {refusals : List (Option FileFailure)}
  {disk : Disk}

/-- The procedure reports events, ends with the result, and makes no access. -/
def Procedure.Reports (procedure : Procedure α) (result : α) : Prop :=
  ∃ events, procedure = (Procedure.logAll events).andThen fun _ ↦ .done result

theorem Procedure.reports_pure (result : α) : (pure result : Procedure α).Reports result :=
  ⟨[], rfl⟩

theorem Sheet.reports_joinReported (left right : Sheet) (column otherColumn : String) :
    (left.joinReported right column otherColumn).Reports
      ((left.join right column otherColumn).mapError .ofUnknownColumn) := by
  unfold joinReported
  cases left.join right column otherColumn with
  | error unknown => exact Procedure.reports_pure _
  | ok joined => exact ⟨[_], rfl⟩

namespace Query

theorem reports_restrict (filter : Option Filter) (sheet : Sheet) :
    (restrict filter sheet).Reports (kept sheet filter) := by
  cases filter with
  | none => exact Procedure.reports_pure _
  | some condition =>
    rw [restrict, Sheet.filterReported, kept]
    cases sheet.filter condition with
    | error unknown => exact Procedure.reports_pure _
    | ok rows => exact ⟨[_], rfl⟩

theorem onSuccess_onSuccess {γ : Type} (first : Procedure (Except Fault α))
    (second : α → Procedure (Except Fault β)) (third : β → Procedure (Except Fault γ)) :
    onSuccess (onSuccess first second) third =
      onSuccess first fun value ↦ onSuccess (second value) third := by
  simp only [onSuccess, Procedure.bind_eq_andThen, Procedure.andThen_assoc]
  refine congrArg (Procedure.andThen first) (funext fun found ↦ ?_)
  cases found <;> rfl

theorem result_onSuccess_of_reports {step : Procedure (Except Fault α)} {found : Except Fault α}
    (hstep : step.Reports found) (following : α → Procedure (Except Fault β)) :
    ((onSuccess step following).runUnder input refusals disk).result =
      found >>= fun value ↦ ((following value).runUnder input refusals disk).result := by
  obtain ⟨events, rfl⟩ := hstep
  rw [onSuccess, Procedure.bind_eq_andThen, Procedure.andThen_assoc,
    Procedure.runUnder_logAll_andThen]
  cases found <;> rfl

/-- A query loads its table by the first access, and goes on with the others if the table loads. -/
theorem runUnder_onSuccess_loadNamed (input : ByteArray) (config : Config)
    (refusals : List (Option FileFailure)) (disk : Disk) (name : String)
    (following : Table → Procedure (Except Fault β)) :
    (∀ fault, Table.storedUnder config disk refusals.head?.join name = .error fault →
      ((onSuccess (Table.loadNamed config name) following).runUnder input refusals disk).result =
          .error fault ∧
        ((onSuccess (Table.loadNamed config name) following).runUnder input refusals disk).disk =
          disk) ∧
    ∀ table, Table.storedUnder config disk refusals.head?.join name = .ok table →
      ((onSuccess (Table.loadNamed config name) following).runUnder input refusals disk).result =
          ((following table).runUnder input refusals.tail disk).result ∧
        ((onSuccess (Table.loadNamed config name) following).runUnder input refusals disk).disk =
          ((following table).runUnder input refusals.tail disk).disk := by
  rw [onSuccess, Procedure.bind_eq_andThen, Table.loadNamed, Table.runUnder_load_andThen]
  unfold Table.storedUnder
  constructor
  · intro fault hstored
    rw [hstored]
    exact ⟨rfl, rfl⟩
  · intro table hstored
    rw [hstored]
    exact ⟨rfl, rfl⟩

theorem result_onSuccess_loadNamed (name : String)
    (following : Table → Procedure (Except Fault β)) :
    ((onSuccess (Table.loadNamed config name) following).runUnder input refusals disk).result =
      Table.storedUnder config disk refusals.head?.join name >>= fun table ↦
        ((following table).runUnder input refusals.tail disk).result := by
  obtain ⟨hfailed, hloaded⟩ :=
    runUnder_onSuccess_loadNamed input config refusals disk name following
  cases hstored : Table.storedUnder config disk refusals.head?.join name with
  | error fault => exact (hfailed fault hstored).1
  | ok table => exact (hloaded table hstored).1

end Query

end Runs

/-! ### Files after queries for changes -/

theorem Table.result_loadNamed_eq_ok_iff {config : Config} {name : String} {input : ByteArray}
    {disk : Disk} {table : Table} :
    ((loadNamed config name).run input disk).result = .ok table ↔
      table.path = config.tablePath name ∧ table.Reflects config disk := by
  rw [loadNamed, run_load, Reflects]
  constructor
  · intro hload
    obtain ⟨-, hpath⟩ := keptUnder_of_ofContent hload
    rw [hpath]
    exact ⟨rfl, hload⟩
  · rintro ⟨hpath, hreflects⟩
    rwa [hpath] at hreflects

/-- A table that was read, since this was not refused, is what its file loads as. -/
theorem Table.reflects_of_storedUnder {config : Config} {name : String} {disk : Disk}
    {table : Table} {refusal : Option FileFailure}
    (hstored : storedUnder config disk refusal name = .ok table) :
    table.path = config.tablePath name ∧ table.Reflects config disk := by
  obtain ⟨-, hpath⟩ := keptUnder_of_ofContent hstored
  rw [Reflects, hpath]
  cases refusal with
  | none => exact ⟨rfl, hstored⟩
  | some failure =>
    obtain ⟨content, hcontent⟩ := exists_content_of_ofContent hstored
    cases hcontent

namespace Change

variable {config : Config} {name : String} {table : Table} {change : Change} {disk after : Disk}

/-- When a change ends, the file is that of the table from before if the change failed, and
otherwise that of the changed table. -/
theorem Ends.reflects_cases {refusal : Option FileFailure} {result : Table × Except Fault Int}
    (hends : change.Ends table refusal disk result after)
    (hdelimiter : Delimited.Separates config.delimiter) (hreflects : table.Reflects config disk) :
    ((∃ fault, result.2 = .error fault) ∧ table.Reflects config after) ∨
      ∃ changed number, change.workedOut table = .ok (changed, number) ∧
        result.2 = .ok number ∧ changed.path = table.path ∧ changed.Reflects config after := by
  obtain ⟨htable, -⟩ := Table.keptUnder_of_ofContent hreflects
  cases hends with
  | stopped hworked => exact Or.inl ⟨⟨_, rfl⟩, hreflects⟩
  | idle hworked hwrites => exact Or.inr ⟨table, _, hworked, rfl, rfl, hreflects⟩
  | unwritten hworked hwrites hwrite => exact Or.inl ⟨⟨_, rfl⟩, hreflects⟩
  | written hworked hwrites hwrite =>
    obtain ⟨hchanged, hpath⟩ := keptUnder_of_workedOut htable hworked
    have hnext := Table.reflects_of_write hdelimiter hchanged (Disk.write_of_writeUnder hwrite)
    exact Or.inr ⟨_, _, hworked, rfl, hpath, hnext⟩

/-- After a query for a change the file loads as the table from before if the query failed, and
otherwise as the changed table, whose number the answer tells. -/
theorem reload_cases (hdelimiter : Delimited.Separates config.delimiter) (input : ByteArray)
    (hload : ((Table.loadNamed config name).run input disk).result = .ok table) (change : Change)
    (refusals : List (Option FileFailure)) :
    let outcome := ((change.query name).execute config).runUnder input refusals disk
    ((∃ fault, outcome.result = .error fault) ∧
        ((Table.loadNamed config name).run input outcome.disk).result = .ok table) ∨
      ∃ changed number, change.workedOut table = .ok (changed, number) ∧
        outcome.result = .ok (change.answer number) ∧
        ((Table.loadNamed config name).run input outcome.disk).result = .ok changed := by
  dsimp only
  rw [execute_query, Procedure.runUnder]
  dsimp only
  obtain ⟨hfailed, hloaded⟩ :=
    Query.runUnder_onSuccess_loadNamed input config refusals disk name fun table ↦
      (change.on table).andThen fun found ↦ .done (found.2.map change.answer)
  cases hstored : Table.storedUnder config disk refusals.head?.join name with
  | error fault =>
    obtain ⟨hresult, hdisk⟩ := hfailed fault hstored
    rw [hresult, hdisk]
    exact Or.inl ⟨⟨fault, rfl⟩, hload⟩
  | ok stored =>
    obtain ⟨hresult, hdisk⟩ := hloaded stored hstored
    obtain ⟨hpath, hreflects⟩ := Table.result_loadNamed_eq_ok_iff.mp hload
    obtain rfl : table = stored := by
      obtain ⟨hsame, hstands⟩ := Table.reflects_of_storedUnder hstored
      rw [Table.Reflects, hsame, ← hpath, hreflects] at hstands
      exact Except.ok.inj hstands
    have hends := change.ends_on table input refusals.tail disk
    rw [hresult, hdisk, Procedure.runUnder_map]
    rcases hends.reflects_cases hdelimiter hreflects with
      ⟨⟨fault, hfault⟩, hafter⟩ | ⟨changed, number, hworked, hnumber, hsame, hafter⟩
    · refine Or.inl ⟨⟨fault, ?_⟩, Table.result_loadNamed_eq_ok_iff.mpr ⟨hpath, hafter⟩⟩
      rw [hfault]
      rfl
    · refine Or.inr ⟨changed, number, hworked, ?_,
        Table.result_loadNamed_eq_ok_iff.mpr ⟨hsame.trans hpath, hafter⟩⟩
      rw [hnumber]
      rfl

end Change

end FlatTables
