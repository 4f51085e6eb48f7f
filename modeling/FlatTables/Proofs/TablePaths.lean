import FlatTables.Proofs.Changes
import FlatTables.Proofs.SplitTexts

/-!
# Tables named with and without the extension

A table may be named with the configured extension or without it. A name without any is bare if
something stands behind its last slash (`Path.IsBare`), and this may be a dot or two, or begin with
one. With the extension behind it, it is a name that has something before its last dot, and so it is
not given the extension once more. Both names have one path, and a query does the same whichever of
them it uses for its table and for the one that it is joined with (`Config.suffixed_alike`).
-/

set_option autoImplicit false
set_option relaxedAutoImplicit false

namespace FlatTables

/-! ### The extension of a suffixed name -/

namespace Path

/-- The name has no extension, and does not end at a slash. -/
structure IsBare (name : String) : Prop where
  extension?_eq_none : extension? name = none
  getLast?_ne : (segments name).getLast? ≠ some ""

variable {name stem path extension : String}

/-- The last dot of a suffixed name is not its first character. -/
theorem splitExtension?_isSome (hstem : stem ≠ "") (extension : String) :
    (splitExtension? (stem ++ "." ++ extension)).isSome = true := by
  have htext : (stem ++ "." ++ extension).toList = stem.toList ++ '.' :: extension.toList :=
    Text.eq_append_singleton_append_iff.mp rfl
  unfold splitExtension?
  cases hcut : Text.cutLast? '.' (stem ++ "." ++ extension) with
  | none =>
    have hdot := Text.cutLast?_eq_none_iff.mp hcut
    rw [htext] at hdot
    exact absurd (List.mem_append_right _ List.mem_cons_self) hdot
  | some parts =>
    obtain ⟨before, after⟩ := parts
    obtain ⟨hparts, hfree⟩ := Text.cutLast?_eq_some_iff.mp hcut
    rw [Text.eq_append_singleton_append_iff, htext] at hparts
    have hbefore : before ≠ "" := by
      rintro rfl
      cases hcharacters : stem.toList with
      | nil => exact hstem (String.toList_eq_nil_iff.mp hcharacters)
      | cons c rest =>
        rw [hcharacters] at hparts
        have hrest : rest ++ '.' :: extension.toList = after.toList := (List.cons.inj hparts).2
        rw [← hrest] at hfree
        exact hfree (List.mem_append_right _ List.mem_cons_self)
    split
    · exact absurd (Prod.mk.inj (Option.some.inj ‹_›)).1 hbefore
    · rfl

theorem lastName?_eq_some
    (hlast : ((segments path).filter fun segment ↦ segment != "" && segment != ".").getLast? =
      some name) (hparent : name ≠ "..") : lastName? path = some name := by
  unfold lastName?
  rw [hlast]
  split
  · exact absurd (Option.some.inj ‹_›) hparent
  · rfl

/-- A text of three or more characters is no segment with a meaning of its own. -/
theorem ne_of_three_le_length (hlength : 3 ≤ name.length) :
    name ≠ "" ∧ name ≠ "." ∧ name ≠ ".." := by
  refine ⟨?_, ?_, ?_⟩ <;> rintro rfl <;> exact absurd hlength (by decide)

theorem extension?_isSome_suffixed (hname : (segments name).getLast? ≠ some "")
    (hextension : extension ≠ "") (hslash : '/' ∉ extension.toList) :
    (extension? (name ++ "." ++ extension)).isSome = true := by
  obtain ⟨front, last, hsegments⟩ := Text.exists_cut_append '/' name
  have hbare : segments name = front ++ [last] := by
    have hnothing := hsegments "" (by simp)
    rwa [String.append_empty, String.append_empty] at hnothing
  have hlast : last ≠ "" := by
    rintro rfl
    exact hname (by rw [hbare, List.getLast?_concat])
  have hsuffixed : segments (name ++ "." ++ extension) = front ++ [last ++ "." ++ extension] := by
    have hadded := hsegments ("." ++ extension) (by simp [hslash])
    rwa [← String.append_assoc, ← String.append_assoc] at hadded
  have hlength : 3 ≤ (last ++ "." ++ extension).length := by
    have hpositive := mt String.length_eq_zero_iff.mp hlast
    have hothers := mt String.length_eq_zero_iff.mp hextension
    have hdot : ".".length = 1 := rfl
    rw [String.length_append, String.length_append, hdot]
    omega
  obtain ⟨hempty, hhere, hparent⟩ := ne_of_three_le_length hlength
  have hlastName : lastName? (name ++ "." ++ extension) = some (last ++ "." ++ extension) := by
    refine lastName?_eq_some ?_ hparent
    rw [hsuffixed, List.filter_append, List.filter_cons_of_pos (by simp [hempty, hhere]),
      List.filter_nil, List.getLast?_concat]
  obtain ⟨parts, hparts⟩ := Option.isSome_iff_exists.mp (splitExtension?_isSome hlast extension)
  rw [extension?, hlastName]
  simp [hparts]

end Path

/-! ### Names for one table -/

namespace Config

/-- Two names of a table: the same one, or a bare one and this with the configured extension. -/
inductive Renames (config : Config) : String → String → Prop
  | same (name : String) : Renames config name name
  | suffixed {name : String} (hbare : Path.IsBare name) :
      Renames config name (name ++ "." ++ config.extension)

variable {config : Config} {name other : String}

theorem tablePath_suffixed (hextension : config.extension ≠ "")
    (hslash : '/' ∉ config.extension.toList) (hbare : Path.IsBare name) :
    config.tablePath (name ++ "." ++ config.extension) = config.tablePath name := by
  have hsuffixed := Path.extension?_isSome_suffixed hbare.getLast?_ne hextension hslash
  rw [tablePath, tablePath, if_pos hsuffixed, hbare.extension?_eq_none]
  rfl

theorem loadNamed_eq_of_renames (hextension : config.extension ≠ "")
    (hslash : '/' ∉ config.extension.toList) (hnames : config.Renames name other) :
    Table.loadNamed config other = Table.loadNamed config name := by
  cases hnames with
  | same => rfl
  | suffixed hbare =>
    rw [Table.loadNamed, Table.loadNamed, tablePath_suffixed hextension hslash hbare]

end Config

/-! ### Queries with other names -/

namespace Query

/-- The query with other names for its table and for the one that it is joined with. -/
def renamed (query : Query) (target joined : String → String) : Query :=
  { query with
    table := query.table.map target
    join := query.join.map fun join ↦ { join with table := joined join.table } }

variable {query : Query} {config : Config} {target joined : String → String}

section Renamed

variable
  (htarget : ∀ name ∈ query.table,
    Table.loadNamed config (target name) = Table.loadNamed config name)
  (hjoined : ∀ join ∈ query.join,
    Table.loadNamed config (joined join.table) = Table.loadNamed config join.table)

include hjoined in
theorem source_renamed (table : Table) :
    source config table (query.renamed target joined).join = source config table query.join := by
  rw [renamed]
  cases hjoin : query.join with
  | none => rfl
  | some join =>
    have hload := hjoined join (by rw [hjoin]; rfl)
    simp only [source, Option.map_some, hload]

theorem onSuccess_target_renamed {following : String → Procedure (Except Fault Answer)}
    (hsame : ∀ name ∈ query.table, following (target name) = following name) :
    onSuccess (pure (query.renamed target joined).target) following =
      onSuccess (pure query.target) following := by
  unfold Query.target renamed
  cases htable : query.table with
  | none => rfl
  | some name => exact hsame name htable

include htarget hjoined in
theorem executeSelect_renamed :
    (query.renamed target joined).executeSelect config = query.executeSelect config := by
  have hsource (table : Table) :
      source config table (query.renamed target joined).join = source config table query.join :=
    source_renamed hjoined table
  unfold executeSelect
  simp only [hsource]
  refine onSuccess_target_renamed fun name hname ↦ ?_
  simp only [htarget name hname]

include htarget hjoined in
/-- Under its other names a query reports another name and then does the same. -/
theorem exists_execute_renamed :
    ∃ following : Procedure (Except Fault Answer),
      query.execute config = .report (.executing query.operation query.table) following ∧
        (query.renamed target joined).execute config =
          .report (.executing query.operation (query.table.map target)) following := by
  cases hrequest : Change.requested? query with
  | none =>
    have hselect := Change.requested?_eq_none_iff.mp hrequest
    have hrenamed : (query.renamed target joined).operation = .select := hselect
    refine ⟨query.executeSelect config, Change.execute_of_select hselect config, ?_⟩
    rw [Change.execute_of_select hrenamed, executeSelect_renamed htarget hjoined]
    rfl
  | some request =>
    have hrenamed : Change.requested? (query.renamed target joined) = some request := hrequest
    refine ⟨_, Change.execute_of_requested hrequest config, ?_⟩
    rw [Change.execute_of_requested hrenamed]
    refine congrArg (Procedure.report _) (onSuccess_target_renamed fun name hname ↦ ?_)
    simp only [htarget name hname]

end Renamed

end Query

/-! ### Suffixed names -/

namespace Config

variable {config : Config}

/-- With an extension that is not empty and has no slash, a bare name and this name with the
extension have one path, and lead to one table. So a query has the same answer and leaves the same
files whether the tables in it are named in one way or in the other, whatever accesses are refused;
only the report that it is carried out tells the names apart. -/
theorem suffixed_alike (hextension : config.extension ≠ "")
    (hslash : '/' ∉ config.extension.toList) :
    (∀ name, Path.IsBare name →
      config.tablePath (name ++ "." ++ config.extension) = config.tablePath name ∧
      Table.loadNamed config (name ++ "." ++ config.extension) = Table.loadNamed config name) ∧
    ∀ (query : Query) (target joined : String → String),
      (∀ name ∈ query.table, config.Renames name (target name)) →
      (∀ join ∈ query.join, config.Renames join.table (joined join.table)) →
      ∀ (input : ByteArray) (refusals : List (Option FileFailure)) (disk : Disk),
        let outcome := (query.execute config).runUnder input refusals disk
        let other := ((query.renamed target joined).execute config).runUnder input refusals disk
        other.result = outcome.result ∧ other.disk = outcome.disk ∧
          other.events.tail = outcome.events.tail := by
  refine ⟨fun name hbare ↦ ⟨tablePath_suffixed hextension hslash hbare,
    loadNamed_eq_of_renames hextension hslash (.suffixed hbare)⟩, ?_⟩
  intro query target joined htarget hjoined input refusals disk outcome other
  have htables (name : String) (hname : name ∈ query.table) :
      Table.loadNamed config (target name) = Table.loadNamed config name :=
    loadNamed_eq_of_renames hextension hslash (htarget name hname)
  have hothers (join : Join) (hjoin : join ∈ query.join) :
      Table.loadNamed config (joined join.table) = Table.loadNamed config join.table :=
    loadNamed_eq_of_renames hextension hslash (hjoined join hjoin)
  obtain ⟨following, hexecute, hrenamed⟩ := Query.exists_execute_renamed htables hothers
  have houtcome : outcome = (Procedure.report _ following).runUnder input refusals disk :=
    congrArg (Procedure.runUnder input · refusals disk) hexecute
  have hother : other = (Procedure.report _ following).runUnder input refusals disk :=
    congrArg (Procedure.runUnder input · refusals disk) hrenamed
  rw [houtcome, hother]
  exact ⟨rfl, rfl, rfl⟩

end Config

/-! ### Tables with odd names -/

/-- A configuration whose extension has a dot. -/
def dottedConfig : Config where
  directory := "d"
  extension := "t.x"

/-- A disk with two tables, one in a file whose name begins with three dots and one in a hidden
file. -/
def dottedDisk : Disk :=
  { entries := [(["d"], .directory), (["d", "...t.x"], .file "id,name\n1,Ada\n".toUTF8),
      (["d", "a"], .directory), (["d", "a", ".b.t.x"], .file "key,mark\n1,A\n".toUTF8)] }

/-- A join of the tables that are named by two dots and by a hidden name. -/
def dottedQuery : Query :=
  { Query.on .select ".." with join := some ⟨"id", "a/.b", "key"⟩ }

theorem Config.suffixed_alike_dotted :
    let suffixed := fun name ↦ name ++ "." ++ "t.x"
    let outcome := ((dottedQuery.renamed suffixed suffixed).execute dottedConfig).runUnder .empty []
      dottedDisk
    dottedConfig.tablePath "...t.x" = dottedConfig.tablePath ".." ∧
      dottedConfig.tablePath "a/.b.t.x" = dottedConfig.tablePath "a/.b" ∧
      outcome.result.map (·.columns) = .ok ["id", "name", "key", "mark"] ∧
      outcome.disk = dottedDisk := by
  intro suffixed outcome
  have hparent : Path.IsBare ".." := ⟨rfl, by decide⟩
  have hhidden : Path.IsBare "a/.b" := ⟨rfl, by decide⟩
  have hextension : dottedConfig.extension ≠ "" := by decide
  have hslash : '/' ∉ dottedConfig.extension.toList := by decide
  obtain ⟨hpaths, hqueries⟩ := suffixed_alike hextension hslash
  have htarget : ∀ name ∈ dottedQuery.table, dottedConfig.Renames name (suffixed name) := by
    rintro name ⟨⟩
    exact .suffixed hparent
  have hjoined : ∀ join ∈ dottedQuery.join,
      dottedConfig.Renames join.table (suffixed join.table) := by
    rintro join ⟨⟩
    exact .suffixed hhidden
  obtain ⟨hresult, hdisk, -⟩ :=
    hqueries dottedQuery suffixed suffixed htarget hjoined .empty [] dottedDisk
  refine ⟨(hpaths ".." hparent).1, (hpaths "a/.b" hhidden).1, ?_, hdisk⟩
  rw [hresult]
  exact eq_ok_of_toOption (by decide +kernel)

end FlatTables
