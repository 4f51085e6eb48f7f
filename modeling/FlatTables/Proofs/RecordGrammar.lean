import FlatTables.Proofs.RecordRoundTrip
import Mathlib.Data.List.Basic
import Mathlib.Data.List.Induction

/-!
# The grammar of delimited texts

Which records a text stands for can be said without a machine. A text is a run of lines, a line is
one or more fields parted by the delimiter, and a field is written with or without quotes
(`Denotes`, `LineText`, `FieldText`). With a delimiter that separates, the decoder accepts exactly
the texts of this grammar and returns the records that they stand for, each on the line it starts
on, so that no text stands for two lists of records (`decode_eq_ok_iff`).

The decoder is followed through a text of the grammar first. At each point outside quotes it has
settled for what the characters so far stand for, apart from a last carriage return or a closing
quote that the next character may still turn into something else (`Decoder.settled`). The text of a
field, of a line and of a whole grammar text lead from one such point to the next
(`ready_of_fieldText`, `ready_of_lineText`, `finish_of_denotes`).

For the other direction every text is cut from the left into fields and lines. Either this comes to
the end of the text, and the text is one of the grammar, or it stops in a quoted field that nothing
closes (`exists_denotes`), where the decoder fails. A text that is decoded is thus in the grammar,
and what it stands for has been found by the first part.
-/

set_option autoImplicit false
set_option relaxedAutoImplicit false

namespace FlatTables.Delimited

/-! ### The grammar -/

/-- What stands between the quotes of a field, with what it stands for. A doubled quote is one
quote, and every other character is itself. -/
inductive QuotedText : (text value : List Char) → Prop
  | nil : QuotedText [] []
  | char {c : Char} {text value : List Char} (hquote : c ≠ '"') (hrest : QuotedText text value) :
      QuotedText (c :: text) (c :: value)
  | quote {text value : List Char} (hrest : QuotedText text value) :
      QuotedText ('"' :: '"' :: text) ('"' :: value)

/-- What stands outside quotes: no delimiter, no line feed, and no quote at the beginning. -/
structure UnquotedText (delimiter : Char) (text : List Char) : Prop where
  head_ne_quote : text.head? ≠ some '"'
  plain : ∀ c ∈ text, c ≠ delimiter ∧ c ≠ '\n'

/-- A field as it is written, with what it stands for. A field without quotes is itself. A field
with quotes stands for what is between them, and for what follows the closing one. -/
inductive FieldText (delimiter : Char) : (text : List Char) → (field : String) → Prop
  | raw {text : List Char} (htext : UnquotedText delimiter text) :
      FieldText delimiter text (String.ofList text)
  | quoted {body value tail : List Char} (hbody : QuotedText body value)
      (htail : UnquotedText delimiter tail) :
      FieldText delimiter ('"' :: body ++ '"' :: tail) (String.ofList (value ++ tail))

/-- A line without its end, with its fields: one or more of them, parted by the delimiter. -/
inductive LineText (delimiter : Char) : (text : List Char) → (fields : List String) → Prop
  | last {text : List Char} {field : String} (hfield : FieldText delimiter text field) :
      LineText delimiter text [field]
  | more {text rest : List Char} {field : String} {fields : List String}
      (hfield : FieldText delimiter text field) (hrest : LineText delimiter rest fields) :
      LineText delimiter (text ++ delimiter :: rest) (field :: fields)

/-- The records of one line. The empty line, which is one empty field without quotes, has none. -/
def lineRecords (line : Nat) (text : List Char) (fields : List String) : List Record :=
  if text = [] then [] else [⟨line, fields⟩]

/-- The records that a text stands for if its first character is on the given line. Each line ends
with a line feed, with a carriage return and a line feed, or with the text. A carriage return before
the line feed that ends a line belongs to the line end. -/
inductive Denotes (delimiter : Char) : (line : Nat) → (text : List Char) → List Record → Prop
  | nothing (line : Nat) : Denotes delimiter line [] []
  | textEnd {text : List Char} {fields : List String} (line : Nat)
      (hline : LineText delimiter text fields) :
      Denotes delimiter line text (lineRecords line text fields)
  | feed {line : Nat} {text rest : List Char} {fields : List String} {records : List Record}
      (hline : LineText delimiter text fields) (hreturn : text.getLast? ≠ some '\r')
      (hrest : Denotes delimiter (line + text.count '\n' + 1) rest records) :
      Denotes delimiter line (text ++ '\n' :: rest) (lineRecords line text fields ++ records)
  | returnFeed {line : Nat} {text rest : List Char} {fields : List String} {records : List Record}
      (hline : LineText delimiter text fields)
      (hrest : Denotes delimiter (line + text.count '\n' + 1) rest records) :
      Denotes delimiter line (text ++ '\r' :: '\n' :: rest)
        (lineRecords line text fields ++ records)

/-- The text between quotes is what it stands for with each quote doubled. -/
theorem QuotedText.eq_quotedBody {text value : List Char} (htext : QuotedText text value) :
    text = quotedBody value := by
  induction htext with
  | nil => rfl
  | char hquote _ ih => simp [quotedBody, hquote, ih]
  | quote _ ih => simp [quotedBody, ih]

/-! ### What the decoder has settled for -/

namespace Decoder

variable {delimiter : Char} {decoder state : Decoder}

/-- The decoder if the next character makes nothing else of the last one: a carriage return is data
then, and a quote has closed the field. -/
def settled (decoder : Decoder) : Decoder :=
  match decoder.mode with
  | .carriageReturn => { decoder.push '\r' with mode := .plain }
  | _ => { decoder with mode := .plain }

/-- The decoder stands outside quotes after some characters, has settled for a state, and waits for
a line feed exactly if the characters end in a carriage return. -/
structure Ready (decoder : Decoder) (text : List Char) (state : Decoder) : Prop where
  mode_ne_quoted : decoder.mode ≠ .quoted
  carriageReturn_iff : decoder.mode = .carriageReturn ↔ text.getLast? = some '\r'
  settled_eq : decoder.settled = state

/-- The decoder stands at the beginning of a field. -/
structure Fresh (decoder : Decoder) : Prop where
  mode_eq : decoder.mode = .plain
  field_eq : decoder.field = []
  wasQuoted_eq : decoder.wasQuoted = false

theorem settled_of_plain (hmode : decoder.mode = .plain) : decoder.settled = decoder := by
  unfold settled
  rw [hmode]
  simp [← hmode]

theorem Fresh.ready (hfresh : decoder.Fresh) : decoder.Ready [] decoder := by
  constructor
  · simp [hfresh.mode_eq]
  · simp [hfresh.mode_eq]
  · exact settled_of_plain hfresh.mode_eq

theorem Fresh.step_quote (hfresh : decoder.Fresh) :
    decoder.step delimiter '"' = { decoder with mode := .quoted, wasQuoted := true } := by
  simp [step, outside, hfresh.mode_eq, hfresh.field_eq, hfresh.wasQuoted_eq]

theorem flush_eq (decoder : Decoder) : decoder.flush = decoder.endRecord.records.reverse := by
  by_cases hnothing : decoder.field = [] ∧ decoder.fields = [] ∧ decoder.wasQuoted = false
  · simp [flush, endRecord, hnothing]
  · rw [flush, if_neg hnothing]

theorem mode_settled (decoder : Decoder) : decoder.settled.mode = .plain := by
  unfold settled
  split <;> rfl

section Steps

variable (hdelimiter : Separates delimiter) (hmode : decoder.mode ≠ .quoted)

include hdelimiter hmode

/-- A line feed apart, and a quote after a closing one, a character is read in the state that the
decoder has settled for. -/
theorem step_eq_outside {c : Char} (hfeed : c ≠ '\n')
    (hquote : c = '"' → decoder.mode ≠ .quoteSeen) :
    decoder.step delimiter c = decoder.settled.outside delimiter c := by
  obtain ⟨records, fields, field, wasQuoted, mode, line, startLine⟩ := decoder
  have hreturn := Ne.symm hdelimiter.2.2
  cases mode <;> simp_all [step, ordinary, settled, push]

/-- A character of the field is added to it, and waits if it is a carriage return. -/
theorem step_of_plain {c : Char} (hc : c ≠ delimiter ∧ c ≠ '\n')
    (hquote : c = '"' → decoder.mode ≠ .quoteSeen ∧ decoder.settled.field ≠ []) :
    (decoder.step delimiter c).settled = decoder.settled.push c ∧
      (decoder.step delimiter c).mode = if c = '\r' then .carriageReturn else .plain := by
  have hplain := mode_settled decoder
  have hopen : ¬ (c = '"' ∧ decoder.settled.field = [] ∧ decoder.settled.wasQuoted = false) :=
    fun h ↦ (hquote h.1).2 h.2.1
  rw [step_eq_outside hdelimiter hmode hc.2 fun h ↦ (hquote h).1, outside, if_neg hopen]
  by_cases hreturn : c = '\r'
  · subst c
    generalize decoder.settled = state at hplain
    simp [settled, push, ← hplain]
  · rw [if_neg hreturn, if_neg hreturn, if_neg hc.2, ordinary, if_neg hc.1]
    exact ⟨settled_of_plain hplain, hplain⟩

/-- The delimiter ends the field. -/
theorem step_delimiter :
    decoder.step delimiter delimiter = decoder.settled.endField := by
  obtain ⟨hquote, hfeed, hreturn⟩ := hdelimiter
  rw [step_eq_outside ⟨hquote, hfeed, hreturn⟩ hmode hfeed fun h ↦ absurd h hquote,
    outside_plain _ hquote hreturn hfeed, ordinary, if_pos rfl]

/-- A line feed after a carriage return ends the line, and the carriage return belongs to it. -/
theorem step_return_feed :
    (decoder.step delimiter '\r').step delimiter '\n' = decoder.settled.newline := by
  have hplain := mode_settled decoder
  rw [step_eq_outside hdelimiter hmode (by decide) (by simp), outside]
  simp [step, ← hplain]

omit hdelimiter in
/-- Any other line feed ends the line as well. -/
theorem step_feed (hreturn : decoder.mode ≠ .carriageReturn) :
    decoder.step delimiter '\n' = decoder.settled.newline := by
  obtain ⟨records, fields, field, wasQuoted, mode, line, startLine⟩ := decoder
  cases mode <;> simp_all [step, outside, settled]

/-- The end of the text ends the record. -/
theorem finish_eq :
    decoder.finish delimiter = .ok decoder.settled.endRecord.records.reverse := by
  obtain ⟨records, fields, field, wasQuoted, mode, line, startLine⟩ := decoder
  have hreturn := Ne.symm hdelimiter.2.2
  cases mode <;> simp_all [finish, flush_eq, ordinary, settled, push, endRecord]

end Steps

/-! ### Texts of the grammar -/

variable {text : List Char}

/-- What stands outside quotes is added to the field as it is. -/
theorem ready_of_plain (hdelimiter : Separates delimiter) (text : List Char) :
    ∀ {before : List Char} {decoder state : Decoder}, decoder.Ready before state →
      (∀ c ∈ text, c ≠ delimiter ∧ c ≠ '\n') →
      (text.head? = some '"' → decoder.mode ≠ .quoteSeen ∧ state.field ≠ []) →
      (decoder.read delimiter text).Ready (before ++ text)
        { state with field := text.reverse ++ state.field } := by
  induction text with
  | nil =>
    intro before decoder state hready _ _
    simpa using hready
  | cons c text ih =>
    intro before decoder state hready hplain hhead
    obtain ⟨hmode, -, rfl⟩ := hready
    obtain ⟨hsettled, hnext⟩ := step_of_plain hdelimiter hmode (hplain c List.mem_cons_self)
      fun hquote ↦ hhead (by rw [hquote]; rfl)
    have hready : (decoder.step delimiter c).Ready (before ++ [c]) (decoder.settled.push c) := by
      refine ⟨?_, ?_, hsettled⟩
      · rw [hnext]
        split <;> simp
      · rw [hnext, List.getLast?_concat]
        by_cases hreturn : c = '\r' <;> simp [hreturn]
    have hopen : (decoder.step delimiter c).mode ≠ .quoteSeen := by
      rw [hnext]
      split <;> simp
    have hrest := ih hready (fun d hd ↦ hplain d (List.mem_cons_of_mem _ hd))
      fun _ ↦ ⟨hopen, List.cons_ne_nil _ _⟩
    simpa [push] using hrest

/-- A closing quote leaves the field with what stands between the quotes. -/
theorem ready_of_quotedText (delimiter : Char) {body value : List Char}
    (hbody : QuotedText body value) (hfresh : decoder.Fresh) :
    (decoder.read delimiter ('"' :: body ++ ['"'])).Ready ('"' :: body ++ ['"'])
      { decoder with
        field := value.reverse
        wasQuoted := true
        line := decoder.line + value.count '\n' } := by
  rw [List.cons_append, read_cons, hfresh.step_quote, read_append, hbody.eq_quotedBody,
    read_quotedBody value _ rfl]
  refine ⟨?_, ?_, ?_⟩
  · simp [step]
  · rw [← List.cons_append, List.getLast?_concat]
    simp [step]
  · simp [step, settled, hfresh.field_eq, ← hfresh.mode_eq]

/-- The text of a field is held as the field, and only the empty text is held as an empty field
without quotes. -/
theorem ready_of_fieldText (hdelimiter : Separates delimiter) {field : String}
    (hfield : FieldText delimiter text field) (hfresh : decoder.Fresh) :
    ∃ quoted, (text = [] ↔ field.toList = [] ∧ quoted = false) ∧
      (decoder.read delimiter text).Ready text
        { decoder with
          field := field.toList.reverse
          wasQuoted := quoted
          line := decoder.line + text.count '\n' } := by
  cases hfield with
  | raw htext =>
    have hcount : text.count '\n' = 0 :=
      List.count_eq_zero.mpr fun hfeed ↦ (htext.plain _ hfeed).2 rfl
    have hready := ready_of_plain hdelimiter text hfresh.ready htext.plain
      fun hquote ↦ absurd hquote htext.head_ne_quote
    refine ⟨false, by simp, ?_⟩
    rw [hfresh.field_eq] at hready
    simpa [hcount, ← hfresh.wasQuoted_eq] using hready
  | @quoted body value tail hbody htail =>
    have hcount : tail.count '\n' = 0 :=
      List.count_eq_zero.mpr fun hfeed ↦ (htail.plain _ hfeed).2 rfl
    have hcloses := ready_of_quotedText delimiter hbody hfresh
    have hready := ready_of_plain hdelimiter tail hcloses htail.plain
      fun hquote ↦ absurd hquote htail.head_ne_quote
    refine ⟨true, by simp, ?_⟩
    rw [← read_append] at hready
    simpa [hcount, hbody.eq_quotedBody, count_quotedBody] using hready

/-- The text of a line without its end holds the fields of the line behind those that the record
has. Only the empty text of a whole line holds a blank line. -/
theorem ready_of_lineText (hdelimiter : Separates delimiter) {fields : List String}
    (hline : LineText delimiter text fields) :
    ∀ {decoder : Decoder}, decoder.Fresh → ∃ state,
      (decoder.read delimiter text).Ready text state ∧
      state.endRecord = { decoder with
        records :=
          if text = [] ∧ decoder.fields = [] then decoder.records
          else ⟨decoder.startLine, decoder.fields.reverse ++ fields⟩ :: decoder.records
        fields := []
        line := decoder.line + text.count '\n' } := by
  induction hline with
  | @last text field hfield =>
    intro decoder hfresh
    obtain ⟨quoted, hblank, hready⟩ := ready_of_fieldText hdelimiter hfield hfresh
    refine ⟨_, hready, ?_⟩
    have hnothing : (decoder.fields.isEmpty && field.toList.reverse.isEmpty && !quoted) = true ↔
        text = [] ∧ decoder.fields = [] := by
      rw [hblank]
      simp [and_comm, and_assoc]
    simp only [endRecord, hnothing, String.ofList_toList, List.reverse_reverse, List.reverse_cons,
      hfresh.field_eq, hfresh.wasQuoted_eq]
  | @more text rest field fields hfield hrest ih =>
    intro decoder hfresh
    obtain ⟨quoted, -, hmode, -, hsettled⟩ := ready_of_fieldText hdelimiter hfield hfresh
    have hnext : (decoder.read delimiter text).step delimiter delimiter =
        { decoder with
          fields := field :: decoder.fields
          line := decoder.line + text.count '\n' } := by
      rw [step_delimiter hdelimiter hmode, hsettled]
      simp [endField, ← hfresh.field_eq, ← hfresh.wasQuoted_eq]
    have hfreshNext : ((decoder.read delimiter text).step delimiter delimiter).Fresh := by
      rw [hnext]
      exact ⟨hfresh.mode_eq, hfresh.field_eq, hfresh.wasQuoted_eq⟩
    obtain ⟨state, hready, hrecord⟩ := ih hfreshNext
    have hlast : (text ++ delimiter :: rest).getLast? = some '\r' ↔ rest.getLast? = some '\r' := by
      rw [List.getLast?_append, List.getLast?_cons]
      cases rest.getLast? with
      | none => simpa using hdelimiter.2.2
      | some c => simp
    refine ⟨state, ⟨?_, ?_, ?_⟩, ?_⟩
    · rw [read_append]
      exact hready.mode_ne_quoted
    · rw [read_append, hlast]
      exact hready.carriageReturn_iff
    · rw [read_append]
      exact hready.settled_eq
    · rw [hrecord, hnext]
      simp [List.count_cons_of_ne hdelimiter.2.1, Nat.add_assoc]

theorem fresh_atLine (before : List Record) (line : Nat) : (atLine before line).Fresh :=
  ⟨rfl, rfl, rfl⟩

/-- At the beginning of a line, the text of the line holds its records, and a line end completes
them. -/
theorem ready_atLine (hdelimiter : Separates delimiter) {fields : List String}
    (hline : LineText delimiter text fields) (before : List Record) (line : Nat) :
    ∃ state, ((atLine before line).read delimiter text).Ready text state ∧
      state.endRecord.records = (lineRecords line text fields).reverse ++ before ∧
      state.newline = atLine ((lineRecords line text fields).reverse ++ before)
        (line + text.count '\n' + 1) := by
  obtain ⟨state, hready, hrecord⟩ := ready_of_lineText hdelimiter hline (fresh_atLine before line)
  have hrecords : state.endRecord.records = (lineRecords line text fields).reverse ++ before := by
    rw [hrecord]
    by_cases htext : text = [] <;> simp [htext, lineRecords, atLine]
  have hline : state.line = line + text.count '\n' := congrArg Decoder.line hrecord
  refine ⟨state, hready, hrecords, ?_⟩
  rw [newline, ← hrecords, hrecord, hline]
  rfl

/-- A text of the grammar is decoded to the records that it stands for, behind those before it. -/
theorem finish_of_denotes (hdelimiter : Separates delimiter) {line : Nat} {records : List Record}
    (hdenotes : Denotes delimiter line text records) :
    ∀ before : List Record,
      ((atLine before line).read delimiter text).finish delimiter =
        .ok (before.reverse ++ records) := by
  induction hdenotes with
  | nothing line =>
    intro before
    simp [finish_atLine]
  | textEnd line hline =>
    intro before
    obtain ⟨state, hready, hrecords, -⟩ := ready_atLine hdelimiter hline before line
    rw [finish_eq hdelimiter hready.mode_ne_quoted, hready.settled_eq, hrecords]
    simp
  | feed hline hreturn _ ih =>
    intro before
    obtain ⟨state, ⟨hmode, hwaits, hsettled⟩, -, hnext⟩ := ready_atLine hdelimiter hline before _
    rw [read_append, read_cons, step_feed hmode fun h ↦ hreturn (hwaits.mp h), hsettled, hnext, ih]
    simp
  | returnFeed hline _ ih =>
    intro before
    obtain ⟨state, ⟨hmode, -, hsettled⟩, -, hnext⟩ := ready_atLine hdelimiter hline before _
    rw [read_append, read_cons, read_cons, step_return_feed hdelimiter hmode, hsettled, hnext, ih]
    simp

end Decoder

/-! ### Cutting a text -/

section Cuts

variable {delimiter : Char}

/-- Behind the beginning of any field the text leaves a quoted field open. -/
def LeavesOpen (delimiter : Char) (text : List Char) : Prop :=
  ∀ decoder : Decoder, decoder.Fresh → (decoder.read delimiter text).mode = .quoted

/-- Between quotes a text goes on to its end or to the first quote that is not doubled. -/
theorem exists_quotedText (text : List Char) :
    (∃ value, QuotedText text value) ∨
      ∃ body value tail, QuotedText body value ∧ tail.head? ≠ some '"' ∧
        text = body ++ '"' :: tail := by
  induction text using List.twoStepInduction with
  | nil => exact Or.inl ⟨[], .nil⟩
  | singleton c =>
    by_cases hquote : c = '"'
    · subst c
      exact Or.inr ⟨[], [], [], .nil, by simp, rfl⟩
    · exact Or.inl ⟨[c], .char hquote .nil⟩
  | cons_cons c d text ihRest ihNext =>
    by_cases hquote : c = '"'
    · subst c
      by_cases hdouble : d = '"'
      · subst d
        rcases ihRest with ⟨value, htext⟩ | ⟨body, value, tail, hbody, htail, rfl⟩
        · exact Or.inl ⟨_, .quote htext⟩
        · exact Or.inr ⟨_, _, tail, .quote hbody, htail, rfl⟩
      · exact Or.inr ⟨[], [], d :: text, .nil, by simpa using hdouble, rfl⟩
    · rcases ihNext d with ⟨value, htext⟩ | ⟨body, value, tail, hbody, htail, hnext⟩
      · exact Or.inl ⟨_, .char hquote htext⟩
      · exact Or.inr ⟨_, _, tail, .char hquote hbody, htail, by rw [hnext]; rfl⟩

theorem Decoder.fresh_step_delimiter (hdelimiter : Separates delimiter) {decoder : Decoder}
    (hmode : decoder.mode ≠ .quoted) : (decoder.step delimiter delimiter).Fresh := by
  rw [step_delimiter hdelimiter hmode]
  exact ⟨mode_settled decoder, rfl, rfl⟩

theorem Decoder.fresh_step_feed {decoder : Decoder} (hmode : decoder.mode ≠ .quoted) :
    (decoder.step delimiter '\n').Fresh := by
  by_cases hreturn : decoder.mode = .carriageReturn
  · unfold step
    rw [hreturn]
    exact ⟨rfl, rfl, rfl⟩
  · rw [step_feed hmode hreturn]
    exact ⟨mode_settled decoder, rfl, rfl⟩

/-- What is left open behind a field or a line is left open behind what is before it. -/
theorem LeavesOpen.after {front rest : List Char} {c : Char} (hrest : LeavesOpen delimiter rest)
    (hfront : ∀ decoder : Decoder, decoder.Fresh →
      ((decoder.read delimiter front).step delimiter c).Fresh) :
    LeavesOpen delimiter (front ++ c :: rest) := by
  intro decoder hfresh
  rw [Decoder.read_append, Decoder.read_cons]
  exact hrest _ (hfront decoder hfresh)

/-- The end of the text, a delimiter or a line feed. -/
def EndsField (delimiter : Char) (rest : List Char) : Prop :=
  rest = [] ∨ ∃ after, rest = delimiter :: after ∨ rest = '\n' :: after

/-- Outside quotes a text goes on to its end, to a delimiter or to a line feed. -/
theorem exists_unquotedText (delimiter : Char) {text : List Char} (hhead : text.head? ≠ some '"') :
    ∃ front rest, text = front ++ rest ∧ UnquotedText delimiter front ∧
      EndsField delimiter rest := by
  let inside : Char → Bool := fun c ↦ c ≠ delimiter ∧ c ≠ '\n'
  refine ⟨text.takeWhile inside, text.dropWhile inside, List.takeWhile_append_dropWhile.symm,
    ⟨?_, ?_⟩, ?_⟩
  · rw [List.head?_takeWhile]
    intro hquote
    exact hhead (Option.eq_some_of_filter_eq_some hquote)
  · intro c hc
    simpa [inside] using List.all_eq_true.mp List.all_takeWhile c hc
  · have hfirst := List.head?_dropWhile_not inside text
    cases hrest : text.dropWhile inside with
    | nil => exact Or.inl rfl
    | cons c after =>
      have hends : c = delimiter ∨ c = '\n' := by
        rw [hrest] at hfirst
        simpa [inside, or_iff_not_imp_left] using hfirst
      exact Or.inr ⟨after, hends.imp (congrArg (· :: after)) (congrArg (· :: after))⟩

theorem exists_fieldText (delimiter : Char) (text : List Char) :
    LeavesOpen delimiter text ∨ ∃ front field rest, text = front ++ rest ∧
      FieldText delimiter front field ∧ EndsField delimiter rest := by
  by_cases hhead : text.head? = some '"'
  · obtain ⟨text, rfl⟩ := List.head?_eq_some_iff.mp hhead
    rcases exists_quotedText text with ⟨value, hvalue⟩ | ⟨body, value, tail, hbody, htail, rfl⟩
    · refine Or.inl fun decoder hfresh ↦ ?_
      rw [Decoder.read_cons, hfresh.step_quote, hvalue.eq_quotedBody,
        Decoder.read_quotedBody value _ rfl]
    · obtain ⟨front, rest, rfl, hfront, hrest⟩ := exists_unquotedText delimiter htail
      exact Or.inr ⟨_, _, rest, by simp, .quoted hbody hfront, hrest⟩
  · obtain ⟨front, rest, rfl, hfront, hrest⟩ := exists_unquotedText delimiter hhead
    exact Or.inr ⟨front, _, rest, rfl, .raw hfront, hrest⟩

theorem exists_lineText (hdelimiter : Separates delimiter) (text : List Char) :
    LeavesOpen delimiter text ∨ ∃ front fields rest, text = front ++ rest ∧
      LineText delimiter front fields ∧ (rest = [] ∨ ∃ after, rest = '\n' :: after) := by
  induction hlength : text.length using Nat.strongRecOn generalizing text with
  | _ length ih =>
    rcases exists_fieldText delimiter text with
      hopen | ⟨front, field, rest, rfl, hfield, hrest⟩
    · exact Or.inl hopen
    · rcases hrest with rfl | ⟨after, rfl | rfl⟩
      · exact Or.inr ⟨front, [field], [], rfl, .last hfield, Or.inl rfl⟩
      · have hshorter : after.length < length := by
          rw [← hlength, List.length_append, List.length_cons]
          omega
        rcases ih _ hshorter after rfl with hopen | ⟨line, fields, rest, rfl, hline, hrest⟩
        · refine Or.inl (hopen.after fun decoder hfresh ↦ ?_)
          obtain ⟨quoted, -, hready⟩ := Decoder.ready_of_fieldText hdelimiter hfield hfresh
          exact Decoder.fresh_step_delimiter hdelimiter hready.mode_ne_quoted
        · exact Or.inr ⟨front ++ delimiter :: line, field :: fields, rest, by simp,
            .more hfield hline, hrest⟩
      · exact Or.inr ⟨front, [field], _, rfl, .last hfield, Or.inr ⟨after, rfl⟩⟩

/-- Without a carriage return at its end, the text of a field is the text of a field. -/
theorem FieldText.exists_of_concat {text : List Char} {field : String}
    (hfield : FieldText delimiter (text ++ ['\r']) field) :
    ∃ field, FieldText delimiter text field := by
  have hkept : ∀ {front : List Char}, UnquotedText delimiter (front ++ ['\r']) →
      UnquotedText delimiter front := by
    intro front hfront
    refine ⟨fun hhead ↦ hfront.head_ne_quote ?_, fun c hc ↦ hfront.plain c (by simp [hc])⟩
    rw [List.head?_append, hhead]
    rfl
  generalize hwhole : text ++ ['\r'] = whole at hfield
  cases hfield with
  | raw htext => exact ⟨_, .raw (hkept (hwhole ▸ htext))⟩
  | @quoted body value tail hbody htail =>
    rcases List.eq_nil_or_concat' tail with rfl | ⟨front, c, rfl⟩
    · have hlast := (List.append_inj' hwhole rfl).2
      simp at hlast
    · have hparts : text ++ ['\r'] = ('"' :: body ++ '"' :: front) ++ [c] := by
        rw [hwhole]
        simp
      obtain ⟨rfl, hlast⟩ := List.append_inj' hparts rfl
      obtain rfl := (List.cons.inj hlast).1
      exact ⟨_, .quoted hbody (hkept htail)⟩

theorem LineText.exists_of_concat (hdelimiter : Separates delimiter) {text : List Char}
    {fields : List String} (hline : LineText delimiter (text ++ ['\r']) fields) :
    ∃ fields, LineText delimiter text fields := by
  generalize hwhole : text ++ ['\r'] = whole at hline
  induction hline generalizing text with
  | last hfield =>
    obtain ⟨field, htext⟩ := (hwhole ▸ hfield).exists_of_concat
    exact ⟨[field], .last htext⟩
  | @more front rest field fields hfield hrest ih =>
    rcases List.eq_nil_or_concat' rest with rfl | ⟨rest, c, rfl⟩
    · have hlast := (List.append_inj' hwhole rfl).2
      exact absurd (List.cons.inj hlast).1.symm hdelimiter.2.2
    · have hparts : text ++ ['\r'] = (front ++ delimiter :: rest) ++ [c] := by
        rw [hwhole]
        simp
      obtain ⟨rfl, hlast⟩ := List.append_inj' hparts rfl
      obtain rfl := (List.cons.inj hlast).1
      obtain ⟨fields, hshort⟩ := ih rfl
      exact ⟨field :: fields, .more hfield hshort⟩

theorem exists_denotes (hdelimiter : Separates delimiter) (text : List Char) :
    ∀ line : Nat, LeavesOpen delimiter text ∨ ∃ records, Denotes delimiter line text records := by
  induction hlength : text.length using Nat.strongRecOn generalizing text with
  | _ length ih =>
    intro line
    rcases exists_lineText hdelimiter text with
      hopen | ⟨front, fields, rest, rfl, hline, rfl | ⟨after, rfl⟩⟩
    · exact Or.inl hopen
    · rw [List.append_nil]
      exact Or.inr ⟨_, .textEnd line hline⟩
    · have hshorter : after.length < length := by
        rw [← hlength, List.length_append, List.length_cons]
        omega
      rcases ih _ hshorter after rfl (line + front.count '\n' + 1) with hopen | ⟨records, hafter⟩
      · refine Or.inl (hopen.after fun decoder hfresh ↦ ?_)
        obtain ⟨state, hready, -⟩ := Decoder.ready_of_lineText hdelimiter hline hfresh
        exact Decoder.fresh_step_feed hready.mode_ne_quoted
      · by_cases hreturn : front.getLast? = some '\r'
        · obtain ⟨line', rfl⟩ := List.getLast?_eq_some_iff.mp hreturn
          obtain ⟨fields, hshort⟩ := hline.exists_of_concat hdelimiter
          rw [List.append_assoc]
          exact Or.inr ⟨_, .returnFeed hshort (by simpa using hafter)⟩
        · exact Or.inr ⟨_, .feed hline hreturn hafter⟩

end Cuts

/-! ### The decoder and the grammar -/

/-- With a delimiter that separates, the decoder returns records for exactly the texts that stand
for them in the grammar, and no text stands for two lists of records. -/
theorem decode_eq_ok_iff {delimiter : Char} (hdelimiter : Separates delimiter) (text : String) :
    (∀ records, decode delimiter text = .ok records ↔ Denotes delimiter 1 text.toList records) ∧
      ∀ first second, Denotes delimiter 1 text.toList first →
        Denotes delimiter 1 text.toList second → first = second := by
  have hcomplete : ∀ records, Denotes delimiter 1 text.toList records →
      decode delimiter text = .ok records := by
    intro records hdenotes
    exact Decoder.finish_of_denotes hdelimiter hdenotes []
  refine ⟨fun records ↦ ⟨fun hdecode ↦ ?_, hcomplete records⟩, fun first second hfirst hsecond ↦ ?_⟩
  · rcases exists_denotes hdelimiter text.toList 1 with hopen | ⟨found, hfound⟩
    · have hmode := hopen Decoder.start (Decoder.fresh_atLine [] 1)
      rw [decode, Decoder.finish, hmode] at hdecode
      cases hdecode
    · rw [hcomplete found hfound] at hdecode
      obtain rfl := Except.ok.inj hdecode
      exact hfound
  · exact Except.ok.inj ((hcomplete first hfirst).symm.trans (hcomplete second hsecond))

/-- A text with characters behind a closing quote, a quote inside a field, carriage returns that
belong to line ends and one that is data, a blank line, a field that spans lines, and a last line
without an end. -/
def mixedText : String :=
  "a,\"x\"\"y\"z\r\n\r\n\"b\nc\",d\"\n\re"

/-- Its records. -/
def mixedRecords : List Record :=
  [⟨1, ["a", "x\"yz"]⟩, ⟨3, ["b\nc", "d\""]⟩, ⟨5, ["\re"]⟩]

theorem decode_eq_ok_iff_mixedText :
    Separates ',' ∧ decode ',' mixedText = .ok mixedRecords ∧
      Denotes ',' 1 mixedText.toList mixedRecords := by
  have hdecode : decode ',' mixedText = .ok mixedRecords := rfl
  obtain ⟨haccepts, -⟩ := decode_eq_ok_iff (by decide : Separates ',') mixedText
  exact ⟨by decide, hdecode, (haccepts mixedRecords).mp hdecode⟩

end FlatTables.Delimited
