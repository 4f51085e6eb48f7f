import FlatTables.Proofs.Changes
import FlatTables.Proofs.NamedColumns

/-!
# Rows keep the width of the header

A table that was loaded is changed again and again, on disks where others may have written or
removed files in between, and with accesses that may be refused (`Attempt`). Whether the attempts
succeed or fail, the table keeps its header, and every row keeps as many fields as the header
(`Table.sound_after`). One attempt preserves this (`Change.Ends.kept`), since it ends with the table
it had or with a changed one.

The positions that an update writes to come from the header, and the rows are written at them
without a check. `Change.workedOut?` makes these checks, and those for the differences of lengths
that a delete counts with; it is `none` where the program would have to stop. Over rows of the width
of the header it never is (`Change.workedOut?_eq`).
-/

set_option autoImplicit false
set_option relaxedAutoImplicit false

namespace FlatTables

/-! ### Working with checks -/

/-- The row with another value at a position, if it reaches that far. -/
def Row.set? (row : Row) (index : Nat) (value : String) : Option Row :=
  if index < row.length then some (row.set index value) else none

/-- A length less another one, unless that is below zero. -/
def lessLength? (length other : Nat) : Option Nat :=
  if other ≤ length then some (length - other) else none

namespace Table

/-- A row after values have been put at positions, all of which it has to have. -/
def overwrite? (assignments : List (Nat × String)) (row : Row) : Option Row :=
  assignments.foldlM (fun row (index, value) ↦ row.set? index value) row

/-- An update that checks every position it writes to. -/
def withUpdated? (table : Table) (payload : Payload) (filter : Option Filter) :
    Option (Except Fault (Table × Nat)) :=
  match table.assignments payload, table.resolve filter with
  | .error fault, _ => some (.error fault)
  | .ok _, .error fault => some (.error fault)
  | .ok assignments, .ok resolved => do
    let rows ← table.sheet.rows.mapM fun row ↦
      if selects resolved row then overwrite? assignments row else some row
    return .ok (table.withRows rows, table.sheet.rows.countP (selects resolved))

/-- A delete that counts by the lengths before and after, and checks the difference. -/
def withDeleted? (table : Table) (filter : Option Filter) : Option (Except Fault (Table × Nat)) :=
  match table.resolve filter with
  | .error fault => some (.error fault)
  | .ok resolved => do
    let rows := table.sheet.rows.filter fun row ↦ !selects resolved row
    let count ← lessLength? table.sheet.rows.length rows.length
    return .ok (table.withRows rows, count)

variable {table : Table}

theorem overwrite?_eq (assignments : List (Nat × String)) :
    ∀ {row : Row}, (∀ assignment ∈ assignments, assignment.1 < row.length) →
      overwrite? assignments row = some (overwrite assignments row) := by
  induction assignments with
  | nil => intro row _; rfl
  | cons assignment assignments ih =>
    intro row hpositions
    have hset : row.set? assignment.1 assignment.2 =
        some (row.set assignment.1 assignment.2) :=
      if_pos (hpositions assignment List.mem_cons_self)
    have hrest : ∀ other ∈ assignments,
        other.1 < (row.set assignment.1 assignment.2).length := by
      intro other hother
      rw [List.length_set]
      exact hpositions other (List.mem_cons_of_mem _ hother)
    calc overwrite? (assignment :: assignments) row
        = (row.set? assignment.1 assignment.2).bind (overwrite? assignments) := rfl
      _ = overwrite? assignments (row.set assignment.1 assignment.2) := by rw [hset]; rfl
      _ = some (overwrite (assignment :: assignments) row) := ih hrest

/-- The positions of a payload are those of columns. -/
theorem lt_of_mem_assignments {payload : Payload} {assignments : List (Nat × String)}
    (hassignments : table.assignments payload = .ok assignments) :
    ∀ assignment ∈ assignments, assignment.1 < table.sheet.header.length := by
  intro assignment hassignment
  obtain ⟨⟨column, value⟩, -, hentry⟩ :=
    exists_of_mem_of_mapM_eq_ok payload.entries hassignments assignment hassignment
  obtain ⟨index, hindex, hdone⟩ := exists_of_bind_eq_ok hentry
  cases hdone
  exact lt_of_columnIndex hindex

theorem withUpdated?_eq (hsound : table.Sound) (payload : Payload) (filter : Option Filter) :
    table.withUpdated? payload filter = some (table.withUpdated payload filter) := by
  rw [withUpdated_eq, withUpdated?]
  cases hassignments : table.assignments payload with
  | error fault => rfl
  | ok assignments =>
    cases table.resolve filter with
    | error fault => rfl
    | ok resolved =>
      have hrows : ∀ row ∈ table.sheet.rows,
          (if selects resolved row then overwrite? assignments row else some row) =
            pure (if selects resolved row then overwrite assignments row else row) := by
        intro row hrow
        by_cases hselected : selects resolved row
        · have hpositions : ∀ assignment ∈ assignments, assignment.1 < row.length := by
            rw [hsound.rows_length row hrow]
            exact lt_of_mem_assignments hassignments
          rw [if_pos hselected, if_pos hselected, overwrite?_eq assignments hpositions]
          rfl
        · rw [if_neg hselected, if_neg hselected]
          rfl
      dsimp only
      rw [mapM_eq_pure_map _ hrows]
      rfl

theorem withDeleted?_eq (table : Table) (filter : Option Filter) :
    table.withDeleted? filter = some (table.withDeleted filter) := by
  rw [withDeleted_eq, withDeleted?]
  cases table.resolve filter with
  | error fault => rfl
  | ok resolved =>
    have hlengths := List.length_eq_countP_add_countP (selects resolved) (l := table.sheet.rows)
    have hkept : (table.sheet.rows.filter fun row ↦ !selects resolved row).length =
        table.sheet.rows.countP fun row ↦ decide ¬selects resolved row = true := by
      rw [← List.countP_eq_length_filter]
      simp
    have hcount : lessLength? table.sheet.rows.length
        (table.sheet.rows.filter fun row ↦ !selects resolved row).length =
          some (table.sheet.rows.countP (selects resolved)) := by
      rw [lessLength?, if_pos (by omega), hkept, hlengths, Nat.add_sub_cancel]
    dsimp only
    rw [hcount]
    rfl

end Table

namespace Change

/-- A change that checks every position and every difference; an insert has none. -/
def workedOut? (table : Table) : Change → Option (Except Fault (Table × Int))
  | .insert payload => some (table.withInserted payload)
  | .update payload filter =>
    (table.withUpdated? payload filter).map
      (Except.map fun (changed, count) ↦ (changed, Int.ofNat count))
  | .delete filter =>
    (table.withDeleted? filter).map
      (Except.map fun (changed, count) ↦ (changed, Int.ofNat count))

/-- Over rows of the width of the header no check fails. -/
theorem workedOut?_eq {table : Table} (hsound : table.Sound) (change : Change) :
    change.workedOut? table = some (change.workedOut table) := by
  cases change with
  | insert payload => rfl
  | update payload filter =>
    rw [workedOut?, Table.withUpdated?_eq hsound]
    rfl
  | delete filter =>
    rw [workedOut?, Table.withDeleted?_eq]
    rfl

/-! ### Attempts -/

/-- However a change ends, the table that is kept has the same header and is sound if the table
was. -/
theorem Ends.kept {config : Config} {change : Change} {table : Table}
    {refusal : Option FileFailure} {disk after : Disk} {result : Table × Except Fault Int}
    (hends : change.Ends table refusal disk result after) (htable : table.KeptUnder config) :
    result.1.sheet.header = table.sheet.header ∧ result.1.KeptUnder config := by
  have hchanged : ∀ {changed number}, change.workedOut table = .ok (changed, number) →
      changed.sheet.header = table.sheet.header ∧ changed.KeptUnder config := by
    intro changed number hworked
    have hkept := (keptUnder_of_workedOut htable hworked).1
    obtain ⟨rows, rfl, -⟩ := workedOut_eq_ok hworked
    exact ⟨rfl, hkept⟩
  cases hends with
  | stopped _ => exact ⟨rfl, htable⟩
  | idle _ _ => exact ⟨rfl, htable⟩
  | unwritten hworked _ _ => exact hchanged hworked
  | written hworked _ _ => exact hchanged hworked

end Change

/-- A change, with the disk as it is by then and the refusals that its accesses meet. -/
structure Attempt where
  change : Change
  disk : Disk
  refusals : List (Option FileFailure) := []

namespace Table

/-- The table that is kept after attempts to change it, made one after the other. -/
def after (table : Table) (attempts : List Attempt) : Table :=
  attempts.foldl
    (fun kept attempt ↦
      ((attempt.change.on kept).runUnder .empty attempt.refusals attempt.disk).result.1)
    table

theorem kept_after {config : Config} (attempts : List Attempt) :
    ∀ {table : Table}, table.KeptUnder config →
      (table.after attempts).sheet.header = table.sheet.header ∧
        (table.after attempts).KeptUnder config := by
  induction attempts with
  | nil => intro table htable; exact ⟨rfl, htable⟩
  | cons attempt attempts ih =>
    intro table htable
    have hends := attempt.change.ends_on table .empty attempt.refusals attempt.disk
    obtain ⟨hheader, hkept⟩ := hends.kept htable
    obtain ⟨hrest, hafter⟩ := ih hkept
    exact ⟨hrest.trans hheader, hafter⟩

/-- A table that loads, whatever its file is, keeps its header through any attempts to change it.
The header has a column and repeats no name, every row has as many fields as the header, and no
change that is made next comes to a position that a row does not have. -/
theorem sound_after {config : Config} {path : String} {table : Table} {input : ByteArray}
    {disk : Disk} (hload : ((load config path).run input disk).result = .ok table)
    (attempts : List Attempt) :
    let kept := table.after attempts
    kept.sheet.header = table.sheet.header ∧
      kept.sheet.header ≠ [] ∧ kept.sheet.header.Nodup ∧
      (∀ row ∈ kept.sheet.rows, row.length = kept.sheet.header.length) ∧
      ∀ change : Change, change.workedOut? kept = some (change.workedOut kept) := by
  intro kept
  rw [run_load] at hload
  obtain ⟨htable, -⟩ := keptUnder_of_ofContent hload
  obtain ⟨hheader, hkept⟩ := kept_after attempts htable
  have hsound : kept.Sound := hkept.sound
  exact ⟨hheader, hsound.header_ne_nil, hsound.header_nodup, hsound.rows_length,
    Change.workedOut?_eq hsound⟩

/-- A disk with a table in which a row is too short. -/
def shortRowDisk : Disk :=
  { entries := [(["t.csv"], .file "id,name,state\n1,Ada\n2,Bob,TX\n".toUTF8)] }

/-- This table, with the row filled up. -/
def shortRowTable : Table :=
  ⟨"t.csv", ',', "id", ⟨"t", ["id", "name", "state"], [["1", "Ada", ""], ["2", "Bob", "TX"]]⟩⟩

/-- An update whose file is gone, one of an unknown column, an insert that is refused to write, and
a delete that succeeds. -/
def mixedAttempts : List Attempt :=
  [⟨.update (.ofList [("name", "Eve")]) (some ⟨"state", ""⟩), {}, []⟩,
    ⟨.update (.ofList [("none", "x")]) none, shortRowDisk, []⟩,
    ⟨.insert (.ofList [("name", "Cid")]), shortRowDisk,
      [some (.system 28 "No space left on device")]⟩,
    ⟨.delete (some ⟨"id", "2"⟩), shortRowDisk, []⟩]

/-- The row that the third attempt adds has three fields as well. -/
theorem sound_after_mixedAttempts :
    ((load {} "t.csv").run .empty shortRowDisk).result = .ok shortRowTable ∧
      (shortRowTable.after mixedAttempts).sheet.rows = [["1", "Eve", ""], ["3", "Cid", ""]] ∧
      (shortRowTable.after mixedAttempts).sheet.header = shortRowTable.sheet.header ∧
      ∀ change : Change, change.workedOut? (shortRowTable.after mixedAttempts) =
        some (change.workedOut (shortRowTable.after mixedAttempts)) := by
  have hload : ((load {} "t.csv").run .empty shortRowDisk).result = .ok shortRowTable := rfl
  have hrows : (shortRowTable.after mixedAttempts).sheet.rows =
      [["1", "Eve", ""], ["3", "Cid", ""]] := by decide +kernel
  obtain ⟨hheader, -, -, -, hchecks⟩ := sound_after hload mixedAttempts
  exact ⟨hload, hrows, hheader, hchecks⟩

end Table

end FlatTables
