import FlatTables.Proofs.FaultyRuns
import FlatTables.Proofs.FileWrites
import FlatTables.Proofs.RecordPlaces
import FlatTables.Table

/-!
# Tables and the files they are kept in

A table is sound (`Table.Sound`) if its header has a column, repeats no name, and every row has as
many fields as the header. Whatever the text of a file is, a table that loads from it is sound
(`Table.sound_of_ofText`): the decoder finds no record without fields, a repeated name is refused
and rows are filled up.

A sound table can be read back from its own text (`Table.ofText_text`). Nothing is filled up on the
way, so the arity policy does not matter.
-/

set_option autoImplicit false
set_option relaxedAutoImplicit false

namespace FlatTables

namespace Delimited.Decoder

variable {delimiter : Char}

/-- No record of the decoder is without fields. -/
def RecordsHaveFields (decoder : Decoder) : Prop :=
  ∀ record ∈ decoder.records, record.fields ≠ []

theorem recordsHaveFields_endRecord {decoder : Decoder} (h : decoder.RecordsHaveFields) :
    decoder.endRecord.RecordsHaveFields := by
  unfold RecordsHaveFields
  rcases decoder.records_endRecord with hkept | ⟨fields, hfields, hadded⟩
  · rw [hkept]
    exact h
  · rw [hadded]
    exact List.forall_mem_cons.mpr ⟨hfields, h⟩

theorem recordsHaveFields_step {decoder : Decoder} (h : decoder.RecordsHaveFields) (c : Char) :
    (decoder.step delimiter c).RecordsHaveFields := by
  unfold RecordsHaveFields
  rcases @step_eq_atLine_or_sameRecords delimiter decoder c with hline | ⟨hrecords, -⟩
  · rw [hline]
    exact recordsHaveFields_endRecord h
  · rw [hrecords]
    exact h

theorem recordsHaveFields_read (delimiter : Char) (text : List Char) :
    (start.read delimiter text).RecordsHaveFields :=
  List.foldlRecOn text (step delimiter)
    (fun _ h ↦ absurd h List.not_mem_nil : start.RecordsHaveFields)
    fun _ h c _ ↦ recordsHaveFields_step h c

end Delimited.Decoder

/-- Every record of a text has a field. -/
theorem Delimited.ne_nil_of_decode {delimiter : Char} {text : String} {records : List Record}
    (hdecode : decode delimiter text = .ok records) : ∀ record ∈ records, record.fields ≠ [] := by
  have hcompleted : ∀ record ∈ (Decoder.start.read delimiter text.toList).records.reverse,
      record.fields ≠ [] := fun record hrecord ↦
    Decoder.recordsHaveFields_read delimiter text.toList record (List.mem_reverse.mp hrecord)
  rcases records_of_decode hdecode with rfl | ⟨fields, hfields, rfl⟩
  · exact hcompleted
  · exact List.forall_mem_append.mpr ⟨hcompleted, List.forall_mem_singleton.mpr hfields⟩

theorem Procedure.decodeText_toUTF8 (text : String) : decodeText text.toUTF8 = .ok text := by
  have hvalid : String.fromUTF8? text.toUTF8 = some text := by
    rw [String.toUTF8_eq_toByteArray, String.fromUTF8?, dif_pos text.isValidUTF8]
    rfl
  rw [decodeText, hvalid]

/-! ### Fitted rows -/

namespace Row

theorem length_fit (row : Row) (width : Nat) : (row.fit width).length = width := by
  rw [fit, List.length_append, List.length_take, List.length_replicate]
  omega

theorem fit_of_length_eq {row : Row} {width : Nat} (hwidth : row.length = width) :
    row.fit width = row := by
  subst width
  simp [fit]

end Row

namespace Table

/-- A header with a column and no name twice, over rows of its width. -/
structure Sound (table : Table) : Prop where
  header_ne_nil : table.sheet.header ≠ []
  header_nodup : table.sheet.header.Nodup
  rows_length : ∀ row ∈ table.sheet.rows, row.length = table.sheet.header.length

/-! ### Headers and rows -/

theorem firstRepeated?_eq_none_iff (names : List String) :
    ∀ seen : List String, firstRepeated? seen names = none ↔
      names.Nodup ∧ ∀ name ∈ names, name ∉ seen := by
  induction names with
  | nil => intro seen; simp [firstRepeated?]
  | cons name names ih =>
    intro seen
    rw [firstRepeated?]
    by_cases hseen : name ∈ seen
    · simp [hseen]
    · rw [if_neg (by simpa using hseen), ih, List.nodup_cons]
      constructor
      · rintro ⟨hnodup, hnew⟩
        refine ⟨⟨fun h ↦ hnew name h List.mem_cons_self, hnodup⟩, fun other hother ↦ ?_⟩
        rcases List.mem_cons.mp hother with rfl | hother
        · exact hseen
        · exact fun h ↦ hnew other hother (List.mem_cons_of_mem _ h)
      · rintro ⟨⟨hname, hnodup⟩, hnew⟩
        refine ⟨hnodup, fun other hother h ↦ ?_⟩
        rcases List.mem_cons.mp h with rfl | h
        · exact hname hother
        · exact hnew other (List.mem_cons_of_mem _ hother) h

theorem firstRepeated?_nil_eq_none_iff (names : List String) :
    firstRepeated? [] names = none ↔ names.Nodup := by
  simp [firstRepeated?_eq_none_iff]

theorem rowFlaw?_eq_none_of_length_eq (arity : Arity) {width : Nat} {record : Delimited.Record}
    (hwidth : record.fields.length = width) : rowFlaw? arity width record = none := by
  simp [rowFlaw?, hwidth]

/-- Records without a flaw give rows, each filled up to the width of the header. -/
theorem readRows_eq_ok {path : String} {arity : Arity} {width : Nat}
    (records : List Delimited.Record) :
    ∀ {rows : List Row}, readRows path arity width records = .ok rows →
      ∀ row ∈ rows, row.length = width := by
  induction records with
  | nil =>
    intro rows hrows row hrow
    cases hrows
    exact absurd hrow List.not_mem_nil
  | cons record records ih =>
    intro rows hrows row hrow
    rw [readRows] at hrows
    split at hrows
    · cases hrows
    · cases hrest : readRows path arity width records with
      | error fault => rw [hrest] at hrows; cases hrows
      | ok rest =>
        rw [hrest] at hrows
        cases hrows
        rcases List.mem_cons.mp hrow with rfl | hrow
        · exact Row.length_fit _ width
        · exact ih hrest row hrow

/-- Records of the width of the header are read as they are, and none is filled up. -/
theorem readRows_of_length_eq (path : String) (arity : Arity) {width : Nat}
    {records : List Delimited.Record} (hwidth : ∀ record ∈ records, record.fields.length = width) :
    readRows path arity width records = .ok (records.map Delimited.Record.fields) ∧
      paddings path arity width records = [] := by
  constructor
  · induction records with
    | nil => rfl
    | cons record records ih =>
      have hrecord := hwidth record List.mem_cons_self
      rw [readRows, rowFlaw?_eq_none_of_length_eq arity hrecord]
      dsimp only
      rw [ih fun other h ↦ hwidth other (List.mem_cons_of_mem _ h), Row.fit_of_length_eq hrecord]
      rfl
  · have hfilter : ((records.takeWhile fun record ↦ (rowFlaw? arity width record).isNone).filter
        fun record ↦ record.fields.length < width) = [] := by
      refine List.filter_eq_nil_iff.mpr fun record hrecord ↦ ?_
      have hmem : record ∈ records := (List.takeWhile_subset _) hrecord
      simp [hwidth record hmem]
    rw [paddings, hfilter, List.map_nil]

/-! ### The text of a table -/

section Texts

variable {config : Config} {path text : String} {table : Table}

/-- A sound table as a configuration loads it. -/
structure KeptUnder (config : Config) (table : Table) : Prop where
  delimiter_eq : table.delimiter = config.delimiter
  idColumn_eq : table.idColumn = config.idColumn
  name_eq : table.sheet.name = nameOf table.path
  sound : table.Sound

/-- A table that loads from a text is sound, whatever the text is. -/
theorem keptUnder_of_ofText (htable : (ofText config path text).2 = .ok table) :
    table.KeptUnder config ∧ table.path = path := by
  unfold ofText at htable
  split at htable
  · cases htable
  · cases htable
  · next first records hdecode =>
    unfold ofRecords at htable
    split at htable
    · cases htable
    · next hnodup =>
      dsimp only at htable
      split at htable
      · cases htable
      · next rows hrows =>
        cases htable
        exact ⟨⟨rfl, rfl, rfl, Delimited.ne_nil_of_decode hdecode first List.mem_cons_self,
          (firstRepeated?_nil_eq_none_iff _).mp hnodup, readRows_eq_ok records hrows⟩, rfl⟩

/-- The text of a sound table loads, and gives its header and its rows with nothing filled up. -/
theorem ofText_text (path : String) (hdelimiter : Delimited.Separates config.delimiter)
    (hsame : table.delimiter = config.delimiter) (hsound : table.Sound) :
    ofText config path table.text =
      ([.loaded (nameOf path) path table.sheet.header.length table.sheet.rows.length],
        .ok ⟨path, config.delimiter, config.idColumn,
          ⟨nameOf path, table.sheet.header, table.sheet.rows⟩⟩) := by
  have hrecords : ∀ fields ∈ table.sheet.header :: table.sheet.rows, fields ≠ [] := by
    intro fields hfields hempty
    rcases List.mem_cons.mp hfields with rfl | hfields
    · exact hsound.header_ne_nil hempty
    · have hlength := hsound.rows_length fields hfields
      rw [hempty] at hlength
      exact hsound.header_ne_nil (List.length_eq_zero_iff.mp hlength.symm)
  have hdecode := Delimited.decode_encode_placed hdelimiter hrecords
  rw [Delimited.placed] at hdecode
  rw [ofText, text, hsame, hdecode]
  have hfields := Delimited.fields_placed config.delimiter table.sheet.rows
    (1 + (Delimited.encodeChars config.delimiter table.sheet.header).count '\n')
  generalize Delimited.placed config.delimiter _ table.sheet.rows = records at hfields ⊢
  have hwidth : ∀ record ∈ records, record.fields.length = table.sheet.header.length := by
    intro record hrecord
    refine hsound.rows_length _ ?_
    rw [← hfields]
    exact List.mem_map_of_mem hrecord
  obtain ⟨hrows, hpaddings⟩ := readRows_of_length_eq path config.arity hwidth
  have hnodup := (firstRepeated?_nil_eq_none_iff _).mpr hsound.header_nodup
  simp only [ofRecords, hnodup, hrows, hpaddings, hfields, List.nil_append]

end Texts

/-! ### Loading and writing a file -/

/-- The table in what was read from a file, with what is reported on the way. -/
def ofContent (config : Config) (path : String) (content : Except FileFailure ByteArray) :
    List Event × Except Fault Table :=
  match content.bind Procedure.decodeText with
  | .error .notFound => ([], .error (.tableNotFound path))
  | .error failure => ([], .error (.file failure))
  | .ok text => ofText config path text

/-- Loading reads one file and reports; the table is that of the content. -/
theorem load_eq (config : Config) (path : String) :
    load config path = .readFile path fun content ↦
      (Procedure.logAll (ofContent config path content).1).andThen fun _ ↦
        .done (ofContent config path content).2 := by
  refine congrArg (Procedure.readFile path) (funext fun content ↦ ?_)
  simp only [ofContent, Procedure.done_andThen, Procedure.pure_eq_done]
  cases content.bind Procedure.decodeText with
  | error failure => cases failure <;> rfl
  | ok text => rfl

theorem run_load (config : Config) (path : String) (input : ByteArray) (disk : Disk) :
    (load config path).run input disk =
      ⟨(ofContent config path (disk.read path)).2, disk,
        (ofContent config path (disk.read path)).1⟩ := by
  rw [load_eq, Procedure.run, Procedure.run_andThen, Procedure.run_logAll]
  simp [Procedure.run]

theorem keptUnder_of_ofContent {config : Config} {path : String}
    {content : Except FileFailure ByteArray} {table : Table}
    (htable : (ofContent config path content).2 = .ok table) :
    table.KeptUnder config ∧ table.path = path := by
  unfold ofContent at htable
  split at htable
  · cases htable
  · cases htable
  · exact keptUnder_of_ofText htable

/-- A table that loads by its name is sound and kept in the file of this name. -/
theorem keptUnder_of_loadNamed {config : Config} {name : String} {input : ByteArray} {disk : Disk}
    {table : Table} (hload : ((loadNamed config name).run input disk).result = .ok table) :
    table.KeptUnder config ∧ table.path = config.tablePath name := by
  rw [loadNamed, run_load] at hload
  exact keptUnder_of_ofContent hload

/-- A table loads only from a content that was read. -/
theorem exists_content_of_ofContent {config : Config} {path : String}
    {content : Except FileFailure ByteArray} {table : Table}
    (htable : (ofContent config path content).2 = .ok table) : ∃ bytes, content = .ok bytes := by
  cases content with
  | ok bytes => exact ⟨bytes, rfl⟩
  | error failure => cases failure <;> cases htable

theorem ofContent_toUTF8 (config : Config) (path text : String) :
    ofContent config path (.ok text.toUTF8) = ofText config path text := by
  simp only [ofContent, Except.bind, Procedure.decodeText_toUTF8]

/-- What follows a load goes on with the table in the content that was read. -/
theorem runUnder_load_andThen {α : Type} (config : Config) (path : String) (input : ByteArray)
    (following : Except Fault Table → Procedure α) (refusals : List (Option FileFailure))
    (disk : Disk) :
    let loaded := ofContent config path (disk.readUnder refusals.head?.join path)
    let outcome := (following loaded.2).runUnder input refusals.tail disk
    ((load config path).andThen following).runUnder input refusals disk =
      { outcome with events := loaded.1 ++ outcome.events } := by
  rw [load_eq, Procedure.andThen, Procedure.runUnder]
  simp only [Procedure.andThen_assoc, Procedure.runUnder_logAll_andThen, Procedure.done_andThen]

/-- Writing a table writes one file and reports. -/
theorem persist_eq (table : Table) :
    table.persist = .writeFile table.path table.text.toUTF8 fun
      | .error failure => .done (.error (.file failure))
      | .ok () => .report (.persisted table.sheet.name table.path table.sheet.rows.length)
          (.done (.ok ())) := by
  refine congrArg (Procedure.writeFile table.path table.text.toUTF8) (funext fun outcome ↦ ?_)
  cases outcome <;> rfl

end Table

end FlatTables
