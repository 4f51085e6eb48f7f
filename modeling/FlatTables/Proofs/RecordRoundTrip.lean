import FlatTables.Config
import FlatTables.Proofs.Results
import FlatTables.Text.Delimited

/-!
# Writing records and reading them back

A delimiter that is neither a quote nor a line break separates fields (`Separates`). With such a
delimiter a written text reads back as the records it was written from, each on the line that the
text before it leads to (`decode_encode`). With any of the other three delimiters some records are
lost or changed on the way.

The decoder is followed piece by piece through a written text. Between two records it stands at the
beginning of a line with nothing open (`Decoder.atLine`), whatever the records before held. A
written field takes it to a state that only the field decides (`Decoder.holding`), a written record
takes it from one line beginning to another (`read_encodeChars`), and a list of records does so by
induction (`read_encode`). All of these are stated for a decoder that has read something before, so
they also hold for what is written behind another text.
-/

set_option autoImplicit false
set_option relaxedAutoImplicit false

namespace FlatTables.Delimited

/-- A delimiter that is never taken for a quote or a line break. -/
def Separates (delimiter : Char) : Prop :=
  delimiter ≠ '"' ∧ delimiter ≠ '\n' ∧ delimiter ≠ '\r'

instance (delimiter : Char) : Decidable (Separates delimiter) :=
  inferInstanceAs (Decidable (_ ∧ _))

/-- The records of a text that begins on a line, each with the line it starts on. -/
def placed (delimiter : Char) : (line : Nat) → List (List String) → List Record
  | _, [] => []
  | line, fields :: records =>
    ⟨line, fields⟩ ::
      placed delimiter (line + (encodeChars delimiter fields).count '\n') records

namespace Decoder

/-- The decoder at the beginning of a line, after the given records, newest first. -/
def atLine (records : List Record) (line : Nat) : Decoder :=
  ⟨records, [], [], false, .plain, line, line⟩

theorem start_eq_atLine : start = atLine [] 1 := rfl

variable {delimiter : Char}

@[simp] theorem read_nil (decoder : Decoder) : decoder.read delimiter [] = decoder := rfl

@[simp] theorem read_cons (decoder : Decoder) (c : Char) (text : List Char) :
    decoder.read delimiter (c :: text) = (decoder.step delimiter c).read delimiter text := rfl

/-! ### A written field -/

/-- The decoder after a written field of the current record. The field lies open, and if it was
quoted its closing quote has just been read. -/
def holding (decoder : Decoder) (field : List Char) (quoted : Bool) : Decoder :=
  { decoder with
    field := field.reverse
    wasQuoted := quoted
    mode := if quoted then .quoteSeen else .plain
    line := decoder.line + field.count '\n' }

theorem outside_plain (decoder : Decoder) {c : Char} (hquote : c ≠ '"') (hreturn : c ≠ '\r')
    (hfeed : c ≠ '\n') : decoder.outside delimiter c = decoder.ordinary delimiter c := by
  simp only [outside, hquote, hreturn, hfeed, false_and, if_false]

/-- Characters without a meaning of their own are taken as they are. -/
theorem read_plain (text : List Char) :
    ∀ decoder : Decoder, decoder.mode = .plain →
      (∀ c ∈ text, c ≠ delimiter ∧ c ≠ '"' ∧ c ≠ '\n' ∧ c ≠ '\r') →
      decoder.read delimiter text = { decoder with field := text.reverse ++ decoder.field } := by
  induction text with
  | nil => intro decoder _ _; rfl
  | cons c text ih =>
    intro decoder hmode htext
    obtain ⟨hdelimiter, hquote, hfeed, hreturn⟩ := htext c List.mem_cons_self
    have hstep : decoder.step delimiter c = decoder.push c := by
      simp only [step, hmode, outside_plain decoder hquote hreturn hfeed, ordinary, hdelimiter,
        if_false]
    rw [read_cons, hstep, ih (decoder.push c) hmode fun d hd ↦ htext d (List.mem_cons_of_mem _ hd)]
    simp [push]

/-- Between quotes every field is read back, its doubled quotes made single. -/
theorem read_quotedBody (field : List Char) :
    ∀ decoder : Decoder, decoder.mode = .quoted →
      decoder.read delimiter (quotedBody field) =
        { decoder with
          field := field.reverse ++ decoder.field
          line := decoder.line + field.count '\n' } := by
  induction field with
  | nil => intro decoder _; rfl
  | cons c field ih =>
    intro decoder hmode
    have hbody : quotedBody (c :: field) =
        (if c = '"' then ['"', '"'] else [c]) ++ quotedBody field := rfl
    rw [hbody, read_append]
    by_cases hquote : c = '"'
    · subst c
      have hpair : decoder.read delimiter ['"', '"'] = decoder.push '"' := by
        simp [step, push, hmode]
      rw [if_pos rfl, hpair, ih (decoder.push '"') hmode]
      simp [push]
    · rw [if_neg hquote]
      by_cases hfeed : c = '\n'
      · subst c
        have hone : decoder.read delimiter ['\n'] =
            { decoder with field := '\n' :: decoder.field, line := decoder.line + 1 } := by
          simp [step, push, hmode]
        have hrest := ih
          { decoder with field := '\n' :: decoder.field, line := decoder.line + 1 } hmode
        rw [hone, hrest]
        simp [Nat.add_assoc, Nat.add_comm 1]
      · have hone : decoder.read delimiter [c] = decoder.push c := by
          simp [step, hmode, hquote, hfeed]
        rw [hone, ih (decoder.push c) hmode]
        simp [push, hfeed]

/-- Whether a field is written between quotes. -/
def quotes (delimiter : Char) (alone : Bool) (field : String) : Bool :=
  (alone && field.isEmpty) || needsQuotes delimiter field

theorem forall_of_needsQuotes_eq_false {field : String}
    (hplain : needsQuotes delimiter field = false) :
    ∀ c ∈ field.toList, c ≠ delimiter ∧ c ≠ '"' ∧ c ≠ '\n' ∧ c ≠ '\r' := by
  intro c hc
  simpa [and_assoc] using List.any_eq_false.mp hplain c hc

/-- A written field is held as it was, whatever its characters are. -/
theorem read_encodeField (alone : Bool) (field : String) (decoder : Decoder)
    (hmode : decoder.mode = .plain) (hfield : decoder.field = [])
    (hquoted : decoder.wasQuoted = false) :
    decoder.read delimiter (encodeField delimiter alone field) =
      decoder.holding field.toList (quotes delimiter alone field) := by
  obtain ⟨records, fields, current, wasQuoted, mode, line, startLine⟩ := decoder
  obtain rfl : mode = .plain := hmode
  obtain rfl : current = [] := hfield
  obtain rfl : wasQuoted = false := hquoted
  cases hquotes : quotes delimiter alone field with
  | true =>
    have htext : encodeField delimiter alone field =
        '"' :: (quotedBody field.toList ++ ['"']) := if_pos hquotes
    rw [htext, read_cons, read_append]
    have hopen : step delimiter ⟨records, fields, [], false, .plain, line, startLine⟩ '"' =
        ⟨records, fields, [], true, .quoted, line, startLine⟩ := by
      simp [step, outside]
    rw [hopen, read_quotedBody field.toList _ rfl]
    simp [step, holding]
  | false =>
    have htext : encodeField delimiter alone field = field.toList :=
      if_neg (Bool.eq_false_iff.mp hquotes)
    have hplain := forall_of_needsQuotes_eq_false (Bool.or_eq_false_iff.mp hquotes).2
    have hlines : field.toList.count '\n' = 0 :=
      List.count_eq_zero.mpr fun hc ↦ (hplain _ hc).2.2.1 rfl
    rw [htext, read_plain field.toList _ rfl hplain]
    simp [holding, hlines]

/-! ### A written record -/

theorem count_quotedBody (field : List Char) :
    (quotedBody field).count '\n' = field.count '\n' := by
  induction field with
  | nil => rfl
  | cons c field ih =>
    have hbody : quotedBody (c :: field) =
        (if c = '"' then ['"', '"'] else [c]) ++ quotedBody field := rfl
    rw [hbody, List.count_append, ih]
    by_cases hquote : c = '"'
    · subst c
      simp
    · rw [if_neg hquote, ← List.count_append, List.singleton_append]

/-- The line breaks of a written field are those of the field. -/
theorem count_encodeField (alone : Bool) (field : String) :
    (encodeField delimiter alone field).count '\n' = field.toList.count '\n' := by
  unfold encodeField
  split
  · simp [count_quotedBody]
  · rfl

theorem holding_endField (decoder : Decoder) (field : List Char) (quoted : Bool)
    (hdelimiter : Separates delimiter) :
    (decoder.holding field quoted).step delimiter delimiter =
      { decoder with
        fields := String.ofList field :: decoder.fields
        field := []
        wasQuoted := false
        mode := .plain
        line := decoder.line + field.count '\n' } := by
  obtain ⟨hquote, hfeed, hreturn⟩ := hdelimiter
  cases quoted <;> simp [step, holding, outside, ordinary, endField, hquote, hfeed, hreturn]

/-- A line feed behind a written field ends the record. The record is no blank line: it has a
field before this one, or this one was quoted or holds something. -/
theorem holding_newline (decoder : Decoder) (field : List Char) (quoted : Bool)
    (hblank : decoder.fields = [] → field = [] → quoted = true) :
    (decoder.holding field quoted).step delimiter '\n' =
      { decoder with
        records := ⟨decoder.startLine, (String.ofList field :: decoder.fields).reverse⟩ ::
          decoder.records
        fields := []
        field := []
        wasQuoted := false
        mode := .plain
        line := decoder.line + field.count '\n' + 1
        startLine := decoder.line + field.count '\n' + 1 } := by
  have hnewline : (decoder.holding field quoted).step delimiter '\n' =
      ({ decoder.holding field quoted with mode := .plain }).newline := by
    cases quoted <;> simp [step, holding, outside]
  rw [hnewline]
  simpa [newline, endRecord, holding] using hblank

/-- The text of fields that follow each other in one record, with its line end. -/
def lineText (delimiter : Char) (alone : Bool) (fields : List String) : List Char :=
  [delimiter].intercalate (fields.map (encodeField delimiter alone)) ++ ['\n']

theorem lineText_singleton (alone : Bool) (field : String) :
    lineText delimiter alone [field] = encodeField delimiter alone field ++ ['\n'] := by
  simp [lineText, List.intercalate]

theorem lineText_cons_cons (alone : Bool) (field next : String) (fields : List String) :
    lineText delimiter alone (field :: next :: fields) =
      encodeField delimiter alone field ++
        delimiter :: lineText delimiter alone (next :: fields) := by
  simp [lineText, List.intercalate]

/-- The fields that are left of a record are added to those it has, and the record is complete at
the end of its line. -/
theorem read_lineText (hdelimiter : Separates delimiter) (alone : Bool) (fields : List String)
    (hfields : fields ≠ []) :
    ∀ decoder : Decoder, decoder.mode = .plain → decoder.field = [] → decoder.wasQuoted = false →
      (decoder.fields = [] → fields.length = 1 → alone = true) →
      decoder.read delimiter (lineText delimiter alone fields) =
        atLine (⟨decoder.startLine, decoder.fields.reverse ++ fields⟩ :: decoder.records)
          (decoder.line + (lineText delimiter alone fields).count '\n') := by
  induction fields with
  | nil => exact absurd rfl hfields
  | cons field fields ih =>
    intro decoder hmode hfield hquoted halone
    cases fields with
    | nil =>
      have hblank : decoder.fields = [] → field.toList = [] →
          quotes delimiter alone field = true := by
        intro hnone hempty
        have hfieldEmpty : field.isEmpty = true := by
          simpa [String.isEmpty_iff] using hempty
        simp [quotes, halone hnone rfl, hfieldEmpty]
      rw [lineText_singleton, read_append,
        read_encodeField alone field decoder hmode hfield hquoted, read_cons, read_nil,
        holding_newline decoder field.toList _ hblank]
      simp [atLine, count_encodeField, Nat.add_assoc]
    | cons next fields =>
      have hrest := ih (List.cons_ne_nil next fields)
        { decoder with
          fields := String.ofList field.toList :: decoder.fields
          field := []
          wasQuoted := false
          mode := .plain
          line := decoder.line + field.toList.count '\n' } rfl rfl rfl
        fun h ↦ absurd h (List.cons_ne_nil _ _)
      rw [lineText_cons_cons, read_append,
        read_encodeField alone field decoder hmode hfield hquoted, read_cons,
        holding_endField decoder field.toList _ hdelimiter, hrest]
      have hlines : (delimiter :: lineText delimiter alone (next :: fields)).count '\n' =
          (lineText delimiter alone (next :: fields)).count '\n' :=
        List.count_cons_of_ne hdelimiter.2.1
      simp [count_encodeField, hlines, Nat.add_assoc]

theorem read_encodeChars (hdelimiter : Separates delimiter) {fields : List String}
    (hfields : fields ≠ []) (records : List Record) (line : Nat) :
    (atLine records line).read delimiter (encodeChars delimiter fields) =
      atLine (⟨line, fields⟩ :: records) (line + (encodeChars delimiter fields).count '\n') :=
  read_lineText hdelimiter (fields.length == 1) fields hfields (atLine records line) rfl rfl rfl
    fun _ h ↦ by simp [h]

/-! ### A written list of records -/

theorem read_encode (hdelimiter : Separates delimiter) (records : List (List String)) :
    ∀ (before : List Record) (line : Nat), (∀ fields ∈ records, fields ≠ []) →
      (atLine before line).read delimiter (records.flatMap (encodeChars delimiter)) =
        atLine ((placed delimiter line records).reverse ++ before)
          (line + (records.flatMap (encodeChars delimiter)).count '\n') := by
  induction records with
  | nil => intro before line _; rfl
  | cons fields records ih =>
    intro before line hrecords
    rw [List.flatMap_cons, read_append,
      read_encodeChars hdelimiter (hrecords fields List.mem_cons_self),
      ih _ _ fun other h ↦ hrecords other (List.mem_cons_of_mem _ h)]
    simp [placed, Nat.add_assoc]

theorem finish_atLine (records : List Record) (line : Nat) :
    (atLine records line).finish delimiter = .ok records.reverse := rfl

end Decoder

@[simp] theorem encode_nil (delimiter : Char) : encode delimiter [] = "" := rfl

/-- A text is the texts of its records, one behind the other. -/
theorem encode_cons (delimiter : Char) (fields : List String) (records : List (List String)) :
    encode delimiter (fields :: records) =
      encodeRecord delimiter fields ++ encode delimiter records := by
  simp [encode, encodeRecord]

/-- A written text is read back as its records. -/
theorem decode_encode_placed {delimiter : Char} (hdelimiter : Separates delimiter)
    {records : List (List String)} (hrecords : ∀ fields ∈ records, fields ≠ []) :
    decode delimiter (encode delimiter records) = .ok (placed delimiter 1 records) := by
  have hread := Decoder.read_encode hdelimiter records [] 1 hrecords
  simp only [decode, encode, String.toList_ofList, Decoder.start_eq_atLine, hread,
    Decoder.finish_atLine, List.append_nil, List.reverse_reverse]

/-- A record stands on the line that the text before it leads to. -/
theorem placed_eq_mapIdx (delimiter : Char) (records : List (List String)) :
    ∀ line : Nat, placed delimiter line records =
      records.mapIdx fun index fields ↦
        ⟨line + (encode delimiter (records.take index)).toList.count '\n', fields⟩ := by
  induction records with
  | nil => intro line; rfl
  | cons fields records ih =>
    intro line
    simp [placed, ih, List.mapIdx_cons, encode_cons, encodeRecord, Nat.add_assoc]

theorem fields_placed (delimiter : Char) (records : List (List String)) :
    ∀ line : Nat, (placed delimiter line records).map Record.fields = records := by
  induction records with
  | nil => intro line; rfl
  | cons fields records ih => intro line; simp [placed, ih]

/-! ### The delimiters that do not separate -/

theorem eq_of_not_separates {delimiter : Char} (hdelimiter : ¬ Separates delimiter) :
    delimiter = '"' ∨ delimiter = '\n' ∨ delimiter = '\r' := by
  simpa only [Separates, ne_eq, Classical.not_and_iff_not_or_not, Classical.not_not]
    using hdelimiter

/-- Configurations can have such a delimiter. -/
theorem exists_config_of_not_separates {delimiter : Char} (hdelimiter : ¬ Separates delimiter) :
    ∃ text config, Config.ofText text = .ok config ∧ config.delimiter = delimiter := by
  rcases eq_of_not_separates hdelimiter with rfl | rfl | rfl
  · exact ⟨"\x7b\"delimiter\":\"\\\"\"\x7d", { delimiter := '"' },
      eq_ok_of_toOption (by decide +kernel), rfl⟩
  · exact ⟨"\x7b\"delimiter\":\"\\n\"\x7d", { delimiter := '\n' },
      eq_ok_of_toOption (by decide +kernel), rfl⟩
  · exact ⟨"\x7b\"delimiter\":\"\\r\"\x7d", { delimiter := '\r' },
      eq_ok_of_toOption (by decide +kernel), rfl⟩

/-- Behind an empty field the delimiter opens quotes that nothing closes. -/
theorem decode_encode_quote : decode '"' (encode '"' [["", "b"]]) = .error ⟨1⟩ := rfl

/-- The delimiter ends the line, and each field becomes a record. -/
theorem decode_encode_feed :
    decode '\n' (encode '\n' [["a", "b"]]) = .ok [⟨1, ["a"]⟩, ⟨2, ["b"]⟩] := rfl

/-- Before an empty last field the delimiter is taken as a part of the line end. -/
theorem decode_encode_return : decode '\r' (encode '\r' [["a", ""]]) = .ok [⟨1, ["a"]⟩] := rfl

/-- With a delimiter that separates, written records are read back as they were, each on one line
more than the text before it has line feeds. Each of the other delimiters is accepted by
configurations, and fails for some records. -/
theorem decode_encode (delimiter : Char) :
    (Separates delimiter → ∀ records : List (List String), (∀ fields ∈ records, fields ≠ []) →
      decode delimiter (encode delimiter records) =
        .ok (records.mapIdx fun index fields ↦
          ⟨1 + (encode delimiter (records.take index)).toList.count '\n', fields⟩)) ∧
    (¬ Separates delimiter →
      (∃ text config, Config.ofText text = .ok config ∧ config.delimiter = delimiter) ∧
      ∃ records : List (List String), (∀ fields ∈ records, fields ≠ []) ∧
        ∀ found, decode delimiter (encode delimiter records) = .ok found →
          found.map Record.fields ≠ records) := by
  constructor
  · intro hdelimiter records hrecords
    rw [decode_encode_placed hdelimiter hrecords, placed_eq_mapIdx]
  · intro hdelimiter
    refine ⟨exists_config_of_not_separates hdelimiter, ?_⟩
    rcases eq_of_not_separates hdelimiter with rfl | rfl | rfl
    · refine ⟨[["", "b"]], by simp, fun found hfound ↦ ?_⟩
      rw [decode_encode_quote] at hfound
      cases hfound
    · refine ⟨[["a", "b"]], by simp, fun found hfound ↦ ?_⟩
      rw [decode_encode_feed] at hfound
      cases hfound
      decide
    · refine ⟨[["a", ""]], by simp, fun found hfound ↦ ?_⟩
      rw [decode_encode_return] at hfound
      cases hfound
      decide

/-- Fields that hold the delimiter, quotes and line breaks, a lone empty field and an empty last
field are all read back. -/
theorem decode_encode_awkward :
    Separates ';' ∧ (∀ fields ∈ [["a;b", "\"q\""], [""], ["x\r\ny", ""], ["\r"]], fields ≠ []) ∧
    decode ';' (encode ';' [["a;b", "\"q\""], [""], ["x\r\ny", ""], ["\r"]]) =
      .ok [⟨1, ["a;b", "\"q\""]⟩, ⟨2, [""]⟩, ⟨3, ["x\r\ny", ""]⟩, ⟨5, ["\r"]⟩] := by
  refine ⟨by decide, by decide, ?_⟩
  rw [(decode_encode ';').1 (by decide) _ (by decide)]
  rfl

end FlatTables.Delimited
