import FlatTables.Proofs.Changes

/-!
# Tables that stay open

A table may be loaded once and changed many times, or each change may be a query that loads the
file anew. With a delimiter that separates, the two cannot be told apart (`keepOpen_eq_askAnew`):
every change is answered alike, also where it fails, and the disk is the same after each of them.

What ties the two together is that the file loads as the open table (`Table.Reflects`). This holds
when the table is opened, whatever the layout of its file is. A change that writes the file leaves
the text of the changed table in it, and every other change leaves both as they were
(`Table.reflects_on`).
-/

set_option autoImplicit false
set_option relaxedAutoImplicit false

namespace FlatTables

/-- The answers to changes of a table that stays open, each with the disk after it. -/
def keepOpen (input : ByteArray) :
    List Change → Table → Disk → List (Except Fault Answer × Disk)
  | [], _, _ => []
  | change :: changes, table, disk =>
    let outcome := (change.on table).run input disk
    (outcome.result.2.map change.answer, outcome.disk) ::
      keepOpen input changes outcome.result.1 outcome.disk

/-- The answers to changes that are asked for one by one, each with the disk after it. -/
def askAnew (input : ByteArray) (config : Config) (name : String) :
    List Change → Disk → List (Except Fault Answer × Disk)
  | [], _ => []
  | change :: changes, disk =>
    let outcome := ((change.query name).execute config).run input disk
    (outcome.result, outcome.disk) :: askAnew input config name changes outcome.disk

namespace Table

variable {config : Config} {table changed : Table} {disk : Disk}

/-- The file of the table loads as the table. -/
def Reflects (config : Config) (table : Table) (disk : Disk) : Prop :=
  (ofContent config table.path (disk.read table.path)).2 = .ok table

/-- A table that was written is what its file loads as. -/
theorem reflects_of_write {next : Disk} (hdelimiter : Delimited.Separates config.delimiter)
    (htable : table.KeptUnder config)
    (hwrite : disk.write table.path table.text.toUTF8 = .ok next) :
    table.Reflects config next := by
  rw [Reflects, Disk.read_of_write hwrite, ofContent_toUTF8,
    ofText_text table.path hdelimiter htable.delimiter_eq htable.sound]
  rw [← htable.delimiter_eq, ← htable.idColumn_eq, ← htable.name_eq]

theorem run_persist {next : Disk} (input : ByteArray)
    (hwrite : disk.write table.path table.text.toUTF8 = .ok next) :
    table.persist.run input disk =
      ⟨.ok (), next, [.persisted table.sheet.name table.path table.sheet.rows.length]⟩ := by
  simp only [persist_eq, Procedure.run, hwrite]

/-- A change of a table that reflects its file leaves such a table, in the same file. -/
theorem reflects_on (hdelimiter : Delimited.Separates config.delimiter)
    (hreflects : table.Reflects config disk) (change : Change) (input : ByteArray) :
    ((change.on table).run input disk).result.1.Reflects config
        ((change.on table).run input disk).disk ∧
      ((change.on table).run input disk).result.1.path = table.path := by
  rw [Change.on_eq]
  cases hworked : change.workedOut table with
  | error fault => exact ⟨hreflects, rfl⟩
  | ok worked =>
    obtain ⟨changed, number⟩ := worked
    dsimp only
    cases hwrites : change.writes number with
    | false =>
      obtain rfl := Change.eq_of_writes_eq_false hworked hwrites
      exact ⟨hreflects, rfl⟩
    | true =>
      obtain ⟨htable, -⟩ := keptUnder_of_ofContent hreflects
      obtain ⟨hchanged, hpath⟩ := Change.keptUnder_of_workedOut htable hworked
      obtain ⟨content, hread⟩ := exists_content_of_ofContent hreflects
      obtain ⟨next, hwrite⟩ := Disk.write_of_read hread changed.text.toUTF8
      rw [← hpath] at hwrite
      rw [if_pos rfl, Procedure.run_andThen, run_persist input hwrite]
      exact ⟨reflects_of_write hdelimiter hchanged hwrite, hpath⟩

end Table

/-- The query for a change of a table that its file loads as does what the change does. -/
theorem Change.run_execute_query {config : Config} {name : String} {table : Table} {disk : Disk}
    (hpath : table.path = config.tablePath name) (hreflects : table.Reflects config disk)
    (change : Change) (input : ByteArray) :
    (((change.query name).execute config).run input disk).result =
        ((change.on table).run input disk).result.2.map change.answer ∧
      (((change.query name).execute config).run input disk).disk =
        ((change.on table).run input disk).disk := by
  rw [Table.Reflects, hpath] at hreflects
  have hload : (Table.loadNamed config name).run input disk =
      ⟨.ok table, disk, (Table.ofContent config (config.tablePath name)
        (disk.read (config.tablePath name))).1⟩ := by
    rw [Table.loadNamed, Table.run_load, hreflects]
  rw [execute_query, Procedure.run, Query.onSuccess, Procedure.bind_eq_andThen]
  simp only [Procedure.run_andThen, hload, Procedure.run, and_self]

/-- Changing a table that stays open and asking for each change by a query give the same answers,
and the same disk after each of them. -/
theorem keepOpen_eq_askAnew {config : Config} (hdelimiter : Delimited.Separates config.delimiter)
    {name : String} {table : Table} {disk : Disk} (input : ByteArray)
    (hopen : ((Table.loadNamed config name).run input disk).result = .ok table)
    (changes : List Change) :
    keepOpen input changes table disk = askAnew input config name changes disk := by
  rw [Table.loadNamed, Table.run_load] at hopen
  obtain ⟨-, hpath⟩ := Table.keptUnder_of_ofContent hopen
  have hreflects : table.Reflects config disk := by rwa [Table.Reflects, hpath]
  clear hopen
  induction changes generalizing table disk with
  | nil => rfl
  | cons change changes ih =>
    obtain ⟨hresult, hdisk⟩ := Change.run_execute_query hpath hreflects change input
    obtain ⟨hnext, hsame⟩ := Table.reflects_on hdelimiter hreflects change input
    rw [keepOpen, askAnew, hresult, hdisk]
    exact congrArg _ (ih (hsame.trans hpath) hnext)

/-! ### A file with a layout of its own -/

/-- A text with long line ends, a blank line, needless quotes and a short row. -/
def unevenText : String :=
  "id,name\r\n\r\n\"7\",Ada\r\n8\r\n"

/-- A disk with this text in its only file. -/
def unevenDisk : Disk :=
  { entries := [(["t.csv"], .file unevenText.toUTF8)] }

/-- The table of this text. -/
def unevenTable : Table :=
  ⟨"./t.csv", ',', "id", ⟨"t", ["id", "name"], [["7", "Ada"], ["8", ""]]⟩⟩

theorem load_unevenDisk :
    ((Table.loadNamed {} "t").run .empty unevenDisk).result = .ok unevenTable := rfl

/-- A change that fails and one that touches no row leave the layout as it is, and the two after
them write the file. -/
theorem keepOpen_unevenDisk :
    let changes : List Change :=
      [.update (.ofList [("none", "x")]) none, .delete (some ⟨"name", "Eve"⟩),
        .insert (.ofList [("name", "Bob")]), .delete (some ⟨"id", "7"⟩)]
    Delimited.Separates ',' ∧
      ((Table.loadNamed {} "t").run .empty unevenDisk).result = .ok unevenTable ∧
      keepOpen .empty changes unevenTable unevenDisk = askAnew .empty {} "t" changes unevenDisk ∧
      (askAnew .empty {} "t" changes unevenDisk).map Prod.fst =
        [.error (.unknownColumn "none" "t"), .ok (.single .delete "deleted_rows" 0 0),
          .ok (.single .insert "id" 9 1), .ok (.single .delete "deleted_rows" 1 1)] := by
  intro changes
  have hsame := keepOpen_eq_askAnew (by decide) .empty load_unevenDisk changes
  exact ⟨by decide, load_unevenDisk, hsame, hsame ▸ rfl⟩

end FlatTables
