import FlatTables.Proofs.RecordPlaces
import FlatTables.Proofs.SoundTables
import Mathlib.Data.List.TakeWhile

/-!
# What loads

A text loads as a table if it is decoded, has a record, its first record repeats no name, and every
other record fits under the first one (`Table.Accepts`). The table has the first record as its
header and the others as rows, filled up with empty fields. Otherwise the first of these checks that
fails is the fault (`Table.FirstFailure`), and for a record that does not fit this is the first one,
told with the line that it starts on.

Every text is of one of these two kinds (`accepts_or_firstFailure`), and either kind settles what
loading gives (`ofText_of_accepts`, `ofText_of_firstFailure`), so both are exactly the conditions
for the two outcomes (`load_outcome`). Policies differ in the last check only: where no record has
to be filled up they agree.
-/

set_option autoImplicit false
set_option relaxedAutoImplicit false

namespace FlatTables

/-- A record of so many fields fits under a header of a width. -/
def Arity.Admits (arity : Arity) (width count : Nat) : Prop :=
  match arity with
  | .pad => count ≤ width
  | .strict => count = width

instance (arity : Arity) (width count : Nat) : Decidable (arity.Admits width count) :=
  match arity with
  | .pad => inferInstanceAs (Decidable (count ≤ width))
  | .strict => inferInstanceAs (Decidable (count = width))

/-- The record is filled up under a header of a width. -/
def Delimited.Record.isShort (width : Nat) (record : Delimited.Record) : Bool :=
  record.fields.length < width

/-- The fields of a record with empty ones behind them, up to a width. -/
def Delimited.Record.filled (width : Nat) (record : Delimited.Record) : Row :=
  record.fields ++ List.replicate (width - record.fields.length) ""

theorem Row.fit_of_length_le {row : Row} {width : Nat} (hwidth : row.length ≤ width) :
    row.fit width = row ++ List.replicate (width - row.length) "" := by
  rw [fit, List.take_of_length_le hwidth]

namespace Table

open Delimited

/-! ### Two kinds of texts -/

/-- The text is decoded to a header that repeats no name and to records that fit under it. -/
structure Accepts (config : Config) (text : String) (header : Record) (records : List Record) :
    Prop where
  decode_eq : decode config.delimiter text = .ok (header :: records)
  header_nodup : header.fields.Nodup
  fits : ∀ record ∈ records, config.arity.Admits header.fields.length record.fields.length

/-- The fault of the first check that fails: the text is decoded, it has a record, the first record
repeats no name, and every other record fits under it. -/
inductive FirstFailure (config : Config) (path text : String) : Fault → Prop
  | unterminated {line : Nat} (hdecode : decode config.delimiter text = .error ⟨line⟩) :
      FirstFailure config path text (.malformed path line .unterminatedQuote)
  | headless (hdecode : decode config.delimiter text = .ok []) :
      FirstFailure config path text (.malformed path 1 .missingHeader)
  | repeated {header : Record} {records : List Record} {front back : List String} {name : String}
      (hdecode : decode config.delimiter text = .ok (header :: records))
      (hheader : header.fields = front ++ name :: back) (hfront : front.Nodup)
      (hname : name ∈ front) :
      FirstFailure config path text (.malformed path 1 (.duplicateColumn name))
  | misfit {header record : Record} {fitting others : List Record}
      (hdecode : decode config.delimiter text = .ok (header :: (fitting ++ record :: others)))
      (hnodup : header.fields.Nodup)
      (hfitting : ∀ earlier ∈ fitting,
        config.arity.Admits header.fields.length earlier.fields.length)
      (hmisfit : ¬ config.arity.Admits header.fields.length record.fields.length)
      (hstarts : StartsOn config.delimiter text (header :: fitting) record) :
      FirstFailure config path text
        (.malformed path record.line (.fieldCount header.fields.length record.fields.length))

/-- The table of a header and the records below it. -/
def ofAccepted (config : Config) (path : String) (header : Record) (records : List Record) :
    Table :=
  ⟨path, config.delimiter, config.idColumn,
    ⟨nameOf path, header.fields, records.map (Record.filled header.fields.length)⟩⟩

/-! ### The checks -/

/-- The first name that is repeated stands behind distinct names, and is one of them or of those
before the list. -/
theorem firstRepeated?_eq_some_iff (names : List String) (name : String) :
    ∀ seen : List String, firstRepeated? seen names = some name ↔
      ∃ front back, names = front ++ name :: back ∧ front.Nodup ∧
        (∀ other ∈ front, other ∉ seen) ∧ (name ∈ seen ∨ name ∈ front) := by
  induction names with
  | nil => intro seen; simp [firstRepeated?]
  | cons first names ih =>
    intro seen
    rw [firstRepeated?]
    by_cases hseen : first ∈ seen
    · rw [if_pos (by simpa using hseen), Option.some.injEq]
      constructor
      · rintro rfl
        exact ⟨[], names, rfl, List.nodup_nil, by simp, Or.inl hseen⟩
      · rintro ⟨front, back, hnames, -, hnew, -⟩
        cases front with
        | nil => exact (List.cons.inj hnames).1
        | cons other front =>
          obtain ⟨rfl, -⟩ := List.cons.inj hnames
          exact absurd hseen (hnew first List.mem_cons_self)
    · rw [if_neg (by simpa using hseen), ih]
      constructor
      · rintro ⟨front, back, rfl, hnodup, hnew, hname⟩
        refine ⟨first :: front, back, rfl, List.nodup_cons.mpr ⟨?_, hnodup⟩, ?_, ?_⟩
        · exact fun hfirst ↦ hnew first hfirst List.mem_cons_self
        · exact List.forall_mem_cons.mpr
            ⟨hseen, fun other hother h ↦ hnew other hother (List.mem_cons_of_mem _ h)⟩
        · simp only [List.mem_cons] at hname ⊢
          tauto
      · rintro ⟨front, back, hnames, hnodup, hnew, hname⟩
        cases front with
        | nil =>
          obtain ⟨rfl, -⟩ := List.cons.inj hnames
          exact absurd hname (by simpa using hseen)
        | cons other front =>
          obtain ⟨rfl, rfl⟩ := List.cons.inj hnames
          obtain ⟨hfresh, hnodup⟩ := List.nodup_cons.mp hnodup
          refine ⟨front, back, rfl, hnodup, fun other hother h ↦ ?_, ?_⟩
          · rcases List.mem_cons.mp h with rfl | h
            · exact hfresh hother
            · exact hnew other (List.mem_cons_of_mem _ hother) h
          · simp only [List.mem_cons] at hname ⊢
            tauto

/-- A header repeats no name, or has a first name that is repeated. -/
theorem nodup_or_exists_repeated (names : List String) :
    names.Nodup ∨
      ∃ front name back, names = front ++ name :: back ∧ front.Nodup ∧ name ∈ front := by
  cases hrepeated : firstRepeated? [] names with
  | none => exact Or.inl ((firstRepeated?_nil_eq_none_iff names).mp hrepeated)
  | some name =>
    obtain ⟨front, back, hnames, hnodup, -, hname⟩ :=
      (firstRepeated?_eq_some_iff names name []).mp hrepeated
    exact Or.inr ⟨front, name, back, hnames, hnodup, hname.resolve_left List.not_mem_nil⟩

section Rows

variable {arity : Arity} {width : Nat} {record : Record}

theorem rowFlaw?_of_admits (hadmits : arity.Admits width record.fields.length) :
    rowFlaw? arity width record = none := by
  cases arity with
  | pad =>
    have hwidth : record.fields.length ≤ width := hadmits
    simp [rowFlaw?, Nat.not_lt.mpr hwidth]
  | strict => exact rowFlaw?_eq_none_of_length_eq _ hadmits

theorem rowFlaw?_of_not_admits (hadmits : ¬ arity.Admits width record.fields.length) :
    rowFlaw? arity width record = some (.fieldCount width record.fields.length) := by
  cases arity with
  | pad =>
    have hwidth : width < record.fields.length := Nat.lt_of_not_le hadmits
    simp [rowFlaw?, hwidth, Nat.ne_of_gt hwidth]
  | strict =>
    have hwidth : record.fields.length ≠ width := hadmits
    simp [rowFlaw?, hwidth]

theorem fit_of_admits (hadmits : arity.Admits width record.fields.length) :
    Row.fit record.fields width = record.filled width := by
  refine Row.fit_of_length_le ?_
  cases arity with
  | pad => exact hadmits
  | strict => exact Nat.le_of_eq hadmits

/-- Records that fit are filled up. -/
theorem readRows_of_admits (path : String) {records : List Record}
    (hfits : ∀ record ∈ records, arity.Admits width record.fields.length) :
    readRows path arity width records = .ok (records.map (Record.filled width)) := by
  induction records with
  | nil => rfl
  | cons record records ih =>
    obtain ⟨hrecord, hrest⟩ := List.forall_mem_cons.mp hfits
    rw [readRows, rowFlaw?_of_admits hrecord]
    dsimp only
    rw [ih hrest, fit_of_admits hrecord]
    rfl

/-- The first record that does not fit is the fault. -/
theorem readRows_of_not_admits (path : String) {fitting : List Record} (others : List Record)
    (hfitting : ∀ earlier ∈ fitting, arity.Admits width earlier.fields.length)
    (hmisfit : ¬ arity.Admits width record.fields.length) :
    readRows path arity width (fitting ++ record :: others) =
      .error (.malformed path record.line (.fieldCount width record.fields.length)) := by
  induction fitting with
  | nil => rw [List.nil_append, readRows, rowFlaw?_of_not_admits hmisfit]
  | cons earlier fitting ih =>
    obtain ⟨hearlier, hrest⟩ := List.forall_mem_cons.mp hfitting
    rw [List.cons_append, readRows, rowFlaw?_of_admits hearlier]
    dsimp only
    rw [ih hrest]
    rfl

/-- There is a warning for each record that is filled up. -/
theorem paddings_of_admits (path : String) {records : List Record}
    (hfits : ∀ record ∈ records, arity.Admits width record.fields.length) :
    paddings path arity width records =
      (records.filter (Record.isShort width)).map fun record ↦
        .padded path record.line record.fields.length width := by
  have haccepted : (records.takeWhile fun record ↦ (rowFlaw? arity width record).isNone) =
      records := by
    refine List.takeWhile_eq_self_iff.mpr fun record hrecord ↦ ?_
    rw [rowFlaw?_of_admits (hfits record hrecord), Option.isNone_none]
  rw [paddings, haccepted]
  rfl

end Rows

section Texts

variable {config : Config} {path text : String}

theorem ofText_of_accepts (path : String) {header : Record} {records : List Record}
    (haccepts : Accepts config text header records) :
    ofText config path text =
      ((records.filter (Record.isShort header.fields.length)).map (fun record ↦
          .padded path record.line record.fields.length header.fields.length) ++
        [.loaded (nameOf path) path header.fields.length records.length],
      .ok (ofAccepted config path header records)) := by
  obtain ⟨hdecode, hnodup, hfits⟩ := haccepts
  have hdistinct := (firstRepeated?_nil_eq_none_iff _).mpr hnodup
  rw [ofText, hdecode]
  simp only [ofRecords, hdistinct, readRows_of_admits path hfits, paddings_of_admits path hfits,
    List.length_map]
  rfl

theorem ofText_of_firstFailure {fault : Fault} (hfailure : FirstFailure config path text fault) :
    (ofText config path text).2 = .error fault := by
  cases hfailure with
  | unterminated hdecode => rw [ofText, hdecode]
  | headless hdecode => rw [ofText, hdecode]
  | @repeated header records front back name hdecode hheader hfront hname =>
    have hrepeated := (firstRepeated?_eq_some_iff header.fields name []).mpr
      ⟨front, back, hheader, hfront, by simp, Or.inr hname⟩
    rw [ofText, hdecode]
    simp only [ofRecords, hrepeated]
  | misfit hdecode hnodup hfitting hmisfit _ =>
    have hdistinct := (firstRepeated?_nil_eq_none_iff _).mpr hnodup
    rw [ofText, hdecode]
    simp only [ofRecords, hdistinct, readRows_of_not_admits path _ hfitting hmisfit]

/-- Every text is accepted or fails a check first. -/
theorem accepts_or_firstFailure (config : Config) (path text : String) :
    (∃ header records, Accepts config text header records) ∨
      ∃ fault, FirstFailure config path text fault := by
  cases hdecode : decode config.delimiter text with
  | error unterminated => exact Or.inr ⟨_, .unterminated hdecode⟩
  | ok records =>
    cases records with
    | nil => exact Or.inr ⟨_, .headless hdecode⟩
    | cons header records =>
      rcases nodup_or_exists_repeated header.fields with
        hnodup | ⟨front, name, back, hheader, hfront, hname⟩
      · rcases forall_or_exists_first
            (fun record : Record ↦ config.arity.Admits header.fields.length record.fields.length)
            records with hfits | ⟨fitting, record, others, rfl, hfitting, hmisfit⟩
        · exact Or.inl ⟨header, records, hdecode, hnodup, hfits⟩
        · exact Or.inr ⟨_, .misfit hdecode hnodup hfitting hmisfit (startsOn_of_decode hdecode)⟩
      · exact Or.inr ⟨_, .repeated hdecode hheader hfront hname⟩

theorem ofText_eq_ok_iff {table : Table} :
    (ofText config path text).2 = .ok table ↔
      ∃ header records, Accepts config text header records ∧
        table = ofAccepted config path header records := by
  constructor
  · intro htable
    rcases accepts_or_firstFailure config path text with
      ⟨header, records, haccepts⟩ | ⟨fault, hfailure⟩
    · rw [ofText_of_accepts path haccepts] at htable
      exact ⟨header, records, haccepts, (Except.ok.inj htable).symm⟩
    · rw [ofText_of_firstFailure hfailure] at htable
      cases htable
  · rintro ⟨header, records, haccepts, rfl⟩
    rw [ofText_of_accepts path haccepts]

theorem ofText_eq_error_iff {fault : Fault} :
    (ofText config path text).2 = .error fault ↔ FirstFailure config path text fault := by
  refine ⟨fun hfault ↦ ?_, ofText_of_firstFailure⟩
  rcases accepts_or_firstFailure config path text with
    ⟨header, records, haccepts⟩ | ⟨first, hfailure⟩
  · rw [ofText_of_accepts path haccepts] at hfault
    cases hfault
  · rw [ofText_of_firstFailure hfailure] at hfault
    obtain rfl := Except.error.inj hfault
    exact hfailure

/-- The number of warnings among events. -/
def warnings (events : List Event) : Nat :=
  events.countP fun event ↦ event.severity = .warn

/-- There are as many warnings as records that are filled up. -/
theorem warnings_of_accepts (path : String) {header : Record} {records : List Record}
    (haccepts : Accepts config text header records) :
    warnings (ofText config path text).1 =
      records.countP fun record ↦ record.fields.length < header.fields.length := by
  rw [ofText_of_accepts path haccepts, warnings, List.countP_append, List.countP_map,
    List.countP_eq_length_filter (p := fun record : Record ↦
      decide (record.fields.length < header.fields.length))]
  have hall : (records.filter (Record.isShort header.fields.length)).countP
      ((fun event ↦ decide (event.severity = .warn)) ∘ fun record ↦
        Event.padded path record.line record.fields.length header.fields.length) =
      (records.filter (Record.isShort header.fields.length)).length :=
    List.countP_eq_length.mpr fun _ _ ↦ rfl
  rw [hall]
  rfl

/-- A record that has the width of the header is not filled up. -/
theorem accepts_of_strict {header : Record} {records : List Record}
    (haccepts : Accepts { config with arity := .strict } text header records) :
    Accepts { config with arity := .pad } text header records :=
  ⟨haccepts.decode_eq, haccepts.header_nodup, fun record hrecord ↦
    Nat.le_of_eq (haccepts.fits record hrecord)⟩

theorem countP_of_strict {header : Record} {records : List Record}
    (haccepts : Accepts { config with arity := .strict } text header records) :
    records.countP (fun record ↦ record.fields.length < header.fields.length) = 0 := by
  refine List.countP_eq_zero.mpr fun record hrecord ↦ ?_
  have hwidth : record.fields.length = header.fields.length := haccepts.fits record hrecord
  simp [hwidth]

theorem exists_ofText_eq_ok_iff :
    (∃ table, (ofText config path text).2 = .ok table) ↔
      ∃ header records, Accepts config text header records := by
  constructor
  · rintro ⟨table, htable⟩
    obtain ⟨header, records, haccepts, -⟩ := ofText_eq_ok_iff.mp htable
    exact ⟨header, records, haccepts⟩
  · rintro ⟨header, records, haccepts⟩
    exact ⟨_, ofText_eq_ok_iff.mpr ⟨header, records, haccepts, rfl⟩⟩

theorem exists_ofText_eq_error_iff :
    (∃ fault, (ofText config path text).2 = .error fault) ↔
      ¬ ∃ header records, Accepts config text header records := by
  rw [← @exists_ofText_eq_ok_iff config path text]
  cases (ofText config path text).2 <;> simp

/-- Filling up makes a difference exactly if there is a short record and no long one. -/
theorem accepts_pad_and_not_strict_iff :
    ((∃ header records, Accepts { config with arity := .pad } text header records) ∧
        ¬ ∃ header records, Accepts { config with arity := .strict } text header records) ↔
      ∃ header records, decode config.delimiter text = .ok (header :: records) ∧
        header.fields.Nodup ∧
        (∃ record ∈ records, record.fields.length < header.fields.length) ∧
        ∀ record ∈ records, record.fields.length ≤ header.fields.length := by
  constructor
  · rintro ⟨⟨header, records, hdecode, hnodup, hfits⟩, hstrict⟩
    refine ⟨header, records, hdecode, hnodup, ?_, hfits⟩
    by_contra hshort
    refine hstrict ⟨header, records, hdecode, hnodup, fun record hrecord ↦ ?_⟩
    exact Nat.le_antisymm (hfits record hrecord)
      (Nat.le_of_not_lt fun h ↦ hshort ⟨record, hrecord, h⟩)
  · rintro ⟨header, records, hdecode, hnodup, ⟨record, hrecord, hshort⟩, hfits⟩
    refine ⟨⟨header, records, hdecode, hnodup, hfits⟩, ?_⟩
    rintro ⟨header', records', haccepts⟩
    obtain ⟨rfl, rfl⟩ := List.cons.inj (Except.ok.inj (hdecode.symm.trans haccepts.decode_eq))
    exact Nat.ne_of_lt hshort (haccepts.fits record hrecord)

end Texts

/-! ### Loading a file -/

section Files

variable {path text : String} {disk : Disk}

theorem run_load_of_read (config : Config) (input : ByteArray)
    (hread : disk.read path = .ok text.toUTF8) :
    (load config path).run input disk =
      ⟨(ofText config path text).2, disk, (ofText config path text).1⟩ := by
  rw [run_load, hread, ofContent_toUTF8]

/-- What loading a text gives under either policy. It succeeds exactly with the texts that are
accepted, with a warning for each row that is filled up, and otherwise it fails with the first check
that fails. What the strict policy accepts the other one accepts with the same table, and the other
one accepts more exactly if there is a short row and no long one. -/
theorem load_outcome (config : Config) (input : ByteArray)
    (hread : disk.read path = .ok text.toUTF8) :
    let policy (arity : Arity) : Config := { config with arity }
    let outcome (arity : Arity) := (load (policy arity) path).run input disk
    (∀ arity,
      (∀ table, (outcome arity).result = .ok table ↔
        ∃ header records, Accepts (policy arity) text header records ∧
          table = ofAccepted (policy arity) path header records) ∧
      (∀ fault, (outcome arity).result = .error fault ↔
        FirstFailure (policy arity) path text fault) ∧
      ∀ header records, Accepts (policy arity) text header records →
        warnings (outcome arity).events =
          records.countP fun record ↦ record.fields.length < header.fields.length) ∧
    (∀ table, (outcome .strict).result = .ok table →
      (outcome .pad).result = .ok table ∧ warnings (outcome .strict).events = 0 ∧
        warnings (outcome .pad).events = 0) ∧
    (((∃ table, (outcome .pad).result = .ok table) ∧
        ∃ fault, (outcome .strict).result = .error fault) ↔
      ∃ header records, decode config.delimiter text = .ok (header :: records) ∧
        header.fields.Nodup ∧
        (∃ record ∈ records, record.fields.length < header.fields.length) ∧
        ∀ record ∈ records, record.fields.length ≤ header.fields.length) := by
  intro policy outcome
  have houtcome (arity : Arity) : outcome arity =
      ⟨(ofText (policy arity) path text).2, disk, (ofText (policy arity) path text).1⟩ :=
    run_load_of_read (policy arity) input hread
  simp only [houtcome]
  refine ⟨fun arity ↦ ⟨fun table ↦ ofText_eq_ok_iff, fun fault ↦ ofText_eq_error_iff,
    fun header records haccepts ↦ warnings_of_accepts path haccepts⟩, fun table htable ↦ ?_, ?_⟩
  · obtain ⟨header, records, haccepts, rfl⟩ := ofText_eq_ok_iff.mp htable
    have hpad := accepts_of_strict haccepts
    have hnone := countP_of_strict haccepts
    refine ⟨ofText_eq_ok_iff.mpr ⟨header, records, hpad, rfl⟩, ?_, ?_⟩
    · rw [warnings_of_accepts path haccepts, hnone]
    · rw [warnings_of_accepts path hpad, hnone]
  · rw [exists_ofText_eq_ok_iff, exists_ofText_eq_error_iff]
    exact accepts_pad_and_not_strict_iff

/-- A text with long line ends, a blank line, a field that spans lines and short rows. -/
def patchyText : String :=
  "id,name,note\r\n\n1,Ada,\"x\ny\"\n2,Bob\n\n3\n"

/-- A disk with this text in its only file. -/
def patchyDisk : Disk :=
  { entries := [(["t.csv"], .file patchyText.toUTF8)] }

/-- Two short rows are filled up with two warnings, and the strict policy refuses the first of them
on the fifth line. -/
theorem load_outcome_patchyDisk :
    let outcome (arity : Arity) := (load { arity } "./t.csv").run .empty patchyDisk
    patchyDisk.read "./t.csv" = .ok patchyText.toUTF8 ∧
      (outcome .pad).result = .ok ⟨"./t.csv", ',', "id",
        ⟨"t", ["id", "name", "note"],
          [["1", "Ada", "x\ny"], ["2", "Bob", ""], ["3", "", ""]]⟩⟩ ∧
      warnings (outcome .pad).events = 2 ∧
      (outcome .strict).result = .error (.malformed "./t.csv" 5 (.fieldCount 3 2)) := by
  intro outcome
  have hread : patchyDisk.read "./t.csv" = .ok patchyText.toUTF8 := rfl
  obtain ⟨harity, -, -⟩ := load_outcome {} .empty hread
  obtain ⟨hpad, -, hwarnings⟩ := harity .pad
  obtain ⟨-, hstrict, -⟩ := harity .strict
  let header : Record := ⟨1, ["id", "name", "note"]⟩
  let full : Record := ⟨3, ["1", "Ada", "x\ny"]⟩
  let short : Record := ⟨5, ["2", "Bob"]⟩
  have hdecode : decode ',' patchyText = .ok (header :: ([full] ++ short :: [⟨7, ["3"]⟩])) := rfl
  have hnodup : header.fields.Nodup := by decide
  have haccepts : Accepts { arity := .pad } patchyText _ _ := ⟨hdecode, hnodup, by decide⟩
  have hfailure := @FirstFailure.misfit { arity := .strict } "./t.csv" patchyText header short
    [full] _ hdecode hnodup (by decide) (by decide) (startsOn_of_decode hdecode)
  exact ⟨hread, (hpad _).mpr ⟨_, _, haccepts, rfl⟩, hwarnings _ _ haccepts,
    (hstrict _).mpr hfailure⟩

end Files

end Table

end FlatTables
