import FlatTables.Proofs.NextIds
import FlatTables.Proofs.RefusedQueries
import Mathlib.Data.List.Chain
import Mathlib.Data.List.Nodup

/-!
# Ids stay distinct

The id of a new row is worked out from the ids of the rows that are there, and no record is kept of
those that were given out before. Still the ids of a table stay distinct through any changes that
leave the id column alone, as texts and as the integers that they stand for, whether the changes
succeed, fail a check or are refused to write (`distinct_after`). A change keeps the ids, takes some
of them away, or puts one behind them that follows them all (`Change.AltersIds`).

An id that was taken away may be given out again. While none is, the ids that are given out are
consecutive.
-/

set_option autoImplicit false
set_option relaxedAutoImplicit false

namespace FlatTables

/-! ### The ids of changed tables -/

namespace Table

variable {table changed : Table} {payload : Payload} {filter : Option Filter}

theorem ids_of_withInserted {id : Int} (hsound : table.Sound)
    (hinserted : table.withInserted payload = .ok (changed, id)) :
    following? table.idNumbers = some id ∧ changed.ids = table.ids ++ [toString id] := by
  obtain ⟨hcolumn, hnext, rfl⟩ := changed_of_withInserted hsound.header_nodup hinserted
  refine ⟨hnext, ?_⟩
  simp only [ids, withRows, List.map_append, List.map_singleton, Row.valueIn_inserted hcolumn]

/-- Values put at positions other than that of a column leave the value in this column. -/
theorem valueIn_overwrite {column : String} (hcolumn : column ∈ table.sheet.header)
    (hpayload : column ∉ payload.columns) {assignments : List (Nat × String)}
    (hassignments : table.assignments payload = .ok assignments) (row : Row) :
    Row.valueIn (overwrite assignments row) table.sheet.header column =
      row.valueIn table.sheet.header column := by
  have hapart : ∀ assignment ∈ assignments,
      assignment.1 ≠ table.sheet.header.idxOf column := by
    intro assignment hassignment hsame
    obtain ⟨entry, hentry, hfound⟩ :=
      exists_of_mem_of_mapM_eq_ok payload.entries hassignments assignment hassignment
    obtain ⟨index, hindex, hdone⟩ := exists_of_bind_eq_ok hfound
    cases hdone
    obtain ⟨hother, rfl⟩ := columnIndex_eq_ok_iff.mp hindex
    have hname : entry.1 = column := (List.idxOf_inj hother).mp hsame
    exact hpayload (hname ▸ List.mem_map_of_mem hentry)
  rw [← Row.field_idxOf hcolumn, ← Row.field_idxOf hcolumn]
  clear hassignments
  induction assignments generalizing row with
  | nil => rfl
  | cons assignment assignments ih =>
    obtain ⟨hfirst, hrest⟩ := List.forall_mem_cons.mp hapart
    have hset : Row.field (row.set assignment.1 assignment.2) (table.sheet.header.idxOf column) =
        row.field (table.sheet.header.idxOf column) := by
      simp [Row.field, List.getD_eq_getElem?_getD, List.getElem?_set_ne hfirst]
    exact (ih _ hrest).trans hset

theorem ids_of_withUpdated {count : Nat} (hcolumn : table.idColumn ∈ table.sheet.header)
    (hpayload : table.idColumn ∉ payload.columns)
    (hupdated : table.withUpdated payload filter = .ok (changed, count)) :
    changed.ids = table.ids := by
  obtain ⟨assignments, resolved, hassignments, -, rfl, -⟩ := withUpdated_eq_ok hupdated
  unfold ids
  refine (List.map_map).trans (List.map_congr_left fun row _ ↦ ?_)
  show Row.valueIn (if selects resolved row then overwrite assignments row else row)
    table.sheet.header table.idColumn = row.valueIn table.sheet.header table.idColumn
  by_cases hselected : selects resolved row = true
  · rw [if_pos hselected, valueIn_overwrite hcolumn hpayload hassignments]
  · rw [if_neg hselected]

theorem ids_of_withDeleted {count : Nat}
    (hdeleted : table.withDeleted filter = .ok (changed, count)) :
    changed.ids.Sublist table.ids := by
  obtain ⟨resolved, -, rfl, -⟩ := withDeleted_eq_ok hdeleted
  exact (List.filter_sublist).map _

end Table

/-! ### What changes do to the ids -/

namespace Change

variable {change : Change} {table changed : Table} {number : Int} {generated? : Option Int}

/-- The change assigns nothing to the column of the ids, unless it is an insert, which has no use
for a value there. -/
def KeepsIds (idColumn : String) : Change → Prop
  | .update payload _ => idColumn ∉ payload.columns
  | .insert _ | .delete _ => True

instance (idColumn : String) (change : Change) : Decidable (change.KeepsIds idColumn) :=
  match change with
  | .update payload _ => inferInstanceAs (Decidable (idColumn ∉ payload.columns))
  | .insert _ | .delete _ => inferInstanceAs (Decidable True)

/-- What a change can do to the ids of a table, with the id that it gives out. -/
inductive AltersIds (change : Change) (table changed : Table) : Option Int → Prop
  | keeps (hids : changed.ids = table.ids) : AltersIds change table changed none
  | appends {id : Int} (hnext : following? table.idNumbers = some id)
      (hids : changed.ids = table.ids ++ [toString id]) : AltersIds change table changed (some id)
  | removes (hdelete : change.operation = .delete) (hids : changed.ids.Sublist table.ids) :
      AltersIds change table changed none

theorem altersIds_of_workedOut (hsound : table.Sound)
    (hcolumn : table.idColumn ∈ table.sheet.header) (hkeeps : change.KeepsIds table.idColumn)
    (hworked : change.workedOut table = .ok (changed, number)) :
    change.AltersIds table changed (change.answer number).generatedId? := by
  cases change with
  | insert payload =>
    obtain ⟨hnext, hids⟩ := Table.ids_of_withInserted hsound hworked
    exact .appends hnext hids
  | update payload filter =>
    obtain ⟨worked, hupdated, hsame⟩ := exists_of_map_eq_ok hworked
    cases hsame
    exact .keeps (Table.ids_of_withUpdated hcolumn hkeeps hupdated)
  | delete filter =>
    obtain ⟨worked, hdeleted, hsame⟩ := exists_of_map_eq_ok hworked
    cases hsame
    exact .removes rfl (Table.ids_of_withDeleted hdeleted)

theorem idNumbers_of_concat {id : Int} (hids : changed.ids = table.ids ++ [toString id]) :
    changed.idNumbers = table.idNumbers ++ [id] := by
  have hread : [toString id].filterMap integer? = [id] := by
    rw [List.filterMap_cons_some (integer?_toString id), List.filterMap_nil]
  rw [Table.idNumbers, Table.idNumbers, hids, List.filterMap_append, hread]

/-- Distinct ids stay distinct, and so do the integers that they stand for. -/
theorem AltersIds.nodup (halters : change.AltersIds table changed generated?) :
    (table.ids.Nodup → changed.ids.Nodup) ∧
      (table.idNumbers.Nodup → changed.idNumbers.Nodup) := by
  cases halters with
  | keeps hids =>
    rw [Table.idNumbers, Table.idNumbers, hids]
    exact ⟨id, id⟩
  | appends hnext hids =>
    rw [idNumbers_of_concat hids, hids, ← List.concat_eq_append, ← List.concat_eq_append,
      List.nodup_concat, List.nodup_concat]
    exact ⟨And.intro (Table.toString_notMem_ids hnext), And.intro (notMem_of_following? hnext)⟩
  | removes hdelete hids =>
    exact ⟨hids.nodup, (hids.filterMap integer?).nodup⟩

/-- An id that is given out is greater than every integer among the ids. -/
theorem AltersIds.lt (halters : change.AltersIds table changed generated?) :
    ∀ id ∈ generated?, ∀ number ∈ table.idNumbers, number < id := by
  cases halters with
  | keeps hids => simp
  | appends hnext hids =>
    rintro id ⟨⟩ number hnumber
    exact lt_of_mem_of_following? hnext hnumber
  | removes hdelete hids => simp

end Change

/-! ### Changes that are asked for -/

/-- A change that is asked for, with the refusals that the accesses of its query meet. -/
structure Demand where
  change : Change
  refusals : List (Option FileFailure) := []

namespace Demand

section Runs

variable (config : Config) (name : String) (input : ByteArray)

/-- What the query for the change on the table of a name leaves behind. -/
def outcome (disk : Disk) (demand : Demand) : Procedure.Outcome (Except Fault Answer) :=
  ((demand.change.query name).execute config).runUnder input demand.refusals disk

/-- The id that the query gives out, if it is a successful insert. -/
def generatedId? (disk : Disk) (demand : Demand) : Option Int :=
  (demand.outcome config name input disk).result.toOption.bind Answer.generatedId?

/-- The disk after demands, made one after the other. -/
def diskAfter (demands : List Demand) (disk : Disk) : Disk :=
  demands.foldl (fun disk demand ↦ (demand.outcome config name input disk).disk) disk

/-- The ids that are given out, in their order. -/
def generatedIds : List Demand → Disk → List Int
  | [], _ => []
  | demand :: demands, disk =>
    (demand.generatedId? config name input disk).toList ++
      generatedIds demands (demand.outcome config name input disk).disk

/-- The file of a name loads as the table, and the rows of the table are told apart by their ids. -/
structure Identifies (disk : Disk) (table : Table) : Prop where
  loads : ((Table.loadNamed config name).run input disk).result = .ok table
  idColumn_mem : config.idColumn ∈ table.sheet.header
  ids_nodup : table.ids.Nodup

end Runs

variable {config : Config} {name : String} {input : ByteArray} {disk : Disk} {table : Table}

/-- A demand leaves a table that is told apart by its ids, and alters these as its change does. -/
theorem Identifies.step (hdelimiter : Delimited.Separates config.delimiter)
    (hidentifies : Identifies config name input disk table) (demand : Demand)
    (hkeeps : demand.change.KeepsIds config.idColumn) :
    ∃ changed, Identifies config name input (demand.outcome config name input disk).disk changed ∧
      demand.change.AltersIds table changed (demand.generatedId? config name input disk) := by
  obtain ⟨hloads, hcolumn, hnodup⟩ := hidentifies
  have hkept := (Table.keptUnder_of_loadNamed hloads).1
  unfold generatedId? outcome
  rcases demand.change.reload_cases hdelimiter input hloads demand.refusals with
    ⟨⟨fault, hfault⟩, hafter⟩ | ⟨changed, number, hworked, hanswer, hafter⟩
  · rw [hfault]
    exact ⟨table, ⟨hafter, hcolumn, hnodup⟩, .keeps rfl⟩
  · have halters : demand.change.AltersIds table changed
        (demand.change.answer number).generatedId? := by
      refine Change.altersIds_of_workedOut hkept.sound ?_ ?_ hworked
      · rwa [hkept.idColumn_eq]
      · rwa [hkept.idColumn_eq]
    have hheader : config.idColumn ∈ changed.sheet.header := by
      obtain ⟨rows, rfl, -⟩ := Change.workedOut_eq_ok hworked
      exact hcolumn
    rw [hanswer]
    exact ⟨changed, ⟨hafter, hheader, halters.nodup.1 hnodup⟩, halters⟩

/-- Any demands leave a table that is told apart by its ids. -/
theorem Identifies.run (hdelimiter : Delimited.Separates config.delimiter) (demands : List Demand)
    (hkeeps : ∀ demand ∈ demands, demand.change.KeepsIds config.idColumn) :
    ∀ {disk : Disk} {table : Table}, Identifies config name input disk table →
      ∃ kept, Identifies config name input (diskAfter config name input demands disk) kept ∧
        (table.idNumbers.Nodup → kept.idNumbers.Nodup) := by
  induction demands with
  | nil =>
    intro disk table hidentifies
    exact ⟨table, hidentifies, id⟩
  | cons demand demands ih =>
    intro disk table hidentifies
    obtain ⟨hfirst, hrest⟩ := List.forall_mem_cons.mp hkeeps
    obtain ⟨changed, hchanged, halters⟩ := hidentifies.step hdelimiter demand hfirst
    obtain ⟨kept, hkept, hnumbers⟩ := ih hrest hchanged
    exact ⟨kept, hkept, fun hnodup ↦ hnumbers (halters.nodup.2 hnodup)⟩

/-- While nothing is deleted the ids that are given out are consecutive, and the first of them
follows those of the table. -/
theorem Identifies.consecutive (hdelimiter : Delimited.Separates config.delimiter)
    (demands : List Demand) (hkeeps : ∀ demand ∈ demands,
      demand.change.KeepsIds config.idColumn ∧ demand.change.operation ≠ .delete) :
    ∀ {disk : Disk} {table : Table}, Identifies config name input disk table →
      (generatedIds config name input demands disk).IsChain (fun first second ↦
          second = first + 1) ∧
        ∀ id ∈ (generatedIds config name input demands disk).head?,
          following? table.idNumbers = some id := by
  induction demands with
  | nil =>
    intro disk table _
    exact ⟨.nil, by simp [generatedIds]⟩
  | cons demand demands ih =>
    intro disk table hidentifies
    obtain ⟨⟨hfirst, hdelete⟩, hrest⟩ := List.forall_mem_cons.mp hkeeps
    obtain ⟨changed, hchanged, halters⟩ := hidentifies.step hdelimiter demand hfirst
    obtain ⟨hchain, hhead⟩ := ih hrest hchanged
    rw [generatedIds]
    generalize demand.generatedId? config name input disk = generated? at halters ⊢
    cases halters with
    | keeps hids =>
      rw [Table.idNumbers, hids] at hhead
      exact ⟨hchain, hhead⟩
    | @appends id hnext hids =>
      rw [Change.idNumbers_of_concat hids] at hhead
      constructor
      · refine List.isChain_cons.mpr ⟨fun second hsecond ↦ ?_, hchain⟩
        exact eq_of_following?_concat hnext (hhead second hsecond)
      · rintro first ⟨⟩
        exact hnext
    | removes hremoves hids => exact absurd hremoves hdelete

/-- Ids stay distinct. A table that loads has the id column and distinct ids. Then after any changes
that are asked for and leave this column alone, whichever accesses are refused, the ids of the table
are distinct, and so are the integers that they stand for if they were so before. The id that an
insert gives out next is greater than all these integers. The ids that are given out from then on
are consecutive as long as nothing is deleted. -/
theorem distinct_after (hdelimiter : Delimited.Separates config.delimiter)
    (hload : ((Table.loadNamed config name).run input disk).result = .ok table)
    (hcolumn : config.idColumn ∈ table.sheet.header) (hdistinct : table.ids.Nodup)
    (demands : List Demand)
    (hkeeps : ∀ demand ∈ demands, demand.change.KeepsIds config.idColumn) :
    let after := diskAfter config name input demands disk
    ∃ kept, ((Table.loadNamed config name).run input after).result = .ok kept ∧
      kept.ids.Nodup ∧ (table.idNumbers.Nodup → kept.idNumbers.Nodup) ∧
      (∀ payload refusals, ∀ id ∈ generatedId? config name input after ⟨.insert payload, refusals⟩,
        ∀ number ∈ kept.idNumbers, number < id) ∧
      ∀ further : List Demand,
        (∀ demand ∈ further,
          demand.change.KeepsIds config.idColumn ∧ demand.change.operation ≠ .delete) →
        (generatedIds config name input further after).IsChain fun first second ↦
          second = first + 1 := by
  intro after
  have hidentifies : Identifies config name input disk table := ⟨hload, hcolumn, hdistinct⟩
  obtain ⟨kept, hkept, hnumbers⟩ := hidentifies.run hdelimiter demands hkeeps
  refine ⟨kept, hkept.loads, hkept.ids_nodup, hnumbers, fun payload refusals ↦ ?_,
    fun further hfurther ↦ (hkept.consecutive hdelimiter further hfurther).1⟩
  obtain ⟨changed, -, halters⟩ := hkept.step hdelimiter ⟨.insert payload, refusals⟩ trivial
  exact halters.lt

/-! ### Changes of a table with odd ids -/

/-- An insert with an id of its own, one that is refused to write, the delete of the greatest id, an
update of an unknown column and one of every row. -/
def oddDemands : List Demand :=
  [⟨.insert (.ofList [("id", "7"), ("name", "Eve")]), []⟩,
    ⟨.insert (.ofList [("name", "Flo")]), [none, some (.system 28 "No space left on device")]⟩,
    ⟨.delete (some ⟨"id", "8"⟩), []⟩,
    ⟨.update (.ofList [("none", "x")]) none, []⟩,
    ⟨.update (.ofList [("name", "Gus")]) none, []⟩]

/-- Two inserts with an update that fails between them. -/
def twoInserts : List Demand :=
  [⟨.insert .empty, []⟩, ⟨.update (.ofList [("none", "x")]) none, []⟩, ⟨.insert .empty, []⟩]

/-- The deleted id is given out again, and then the next one. -/
theorem distinct_after_oddDemands :
    let after := diskAfter {} "t" .empty oddDemands oddIdsDisk
    (∃ kept, ((Table.loadNamed {} "t").run .empty after).result = .ok kept ∧
      kept.ids.Nodup ∧ kept.idNumbers.Nodup) ∧
      generatedIds {} "t" .empty oddDemands oddIdsDisk = [8] ∧
      generatedIds {} "t" .empty twoInserts after = [8, 9] ∧
      (generatedIds {} "t" .empty twoInserts after).IsChain fun first second ↦
        second = first + 1 := by
  intro after
  have hseparates : Delimited.Separates ({} : Config).delimiter := by decide
  have hkeeps : ∀ demand ∈ oddDemands, demand.change.KeepsIds "id" := by decide
  have hfurther : ∀ demand ∈ twoInserts,
      demand.change.KeepsIds "id" ∧ demand.change.operation ≠ .delete := by decide
  obtain ⟨kept, hkept, hids, hnumbers, -, hchain⟩ :=
    distinct_after hseparates load_oddIdsDisk (by decide) (by decide) oddDemands hkeeps
  have hnodup : oddIdsTable.idNumbers.Nodup := by decide +kernel
  exact ⟨⟨kept, hkept, hids, hnumbers hnodup⟩, by decide +kernel, by decide +kernel,
    hchain twoInserts hfurther⟩

end Demand

end FlatTables
