import FlatTables.Proofs.RecordGrammar

/-!
# Texts behind one another

A text can be decoded in pieces. What a piece is decoded to does not depend on what stands before
it, if the cut is made where a record may begin: at the beginning, or behind a line feed that stands
outside quotes (`Complete`). The records of the second piece follow those of the first, on lines
that are further down by the line feeds of the first, and a quoted field that is left open in the
second piece is reported so much further down (`decode_append`).

This holds for every delimiter, also for a quote or a line break. Nothing in the steps of the
decoder depends on its records or its lines (`Decoder.step_behind`), so it may be followed from the
beginning of the second piece. It stands there as at the beginning of a text, since a line feed
outside quotes leaves nothing open (`Decoder.step_feed_eq_atLine`) and every line feed moves it on
by one line (`Decoder.line_read`).
-/

set_option autoImplicit false
set_option relaxedAutoImplicit false

namespace FlatTables.Delimited

/-- The record as it is found if the text stands so many lines further down. -/
def Record.lower (lines : Nat) (record : Record) : Record :=
  { record with line := record.line + lines }

/-- The open field as it is found if the text stands so many lines further down. -/
def Unterminated.lower (lines : Nat) (unterminated : Unterminated) : Unterminated :=
  ⟨unterminated.line + lines⟩

/-- What a text is decoded to behind a text with the given records and number of line feeds. -/
def decodedBehind (records : List Record) (lines : Nat) :
    Except Unterminated (List Record) → Except Unterminated (List Record)
  | .ok others => .ok (records ++ others.map (Record.lower lines))
  | .error unterminated => .error (unterminated.lower lines)

/-- A record may begin behind the text, which holds the given ones: the text is empty, or it ends
with a line feed, and no quoted field is left open. -/
structure Complete (delimiter : Char) (text : String) (records : List Record) : Prop where
  ends : text = "" ∨ text.toList.getLast? = some '\n'
  decode_eq : decode delimiter text = .ok records

namespace Decoder

variable {delimiter : Char}

/-! ### Lines -/

theorem line_ordinary (decoder : Decoder) (c : Char) :
    (decoder.ordinary delimiter c).line = decoder.line := by
  unfold ordinary
  split <;> rfl

theorem line_outside (decoder : Decoder) (c : Char) :
    (decoder.outside delimiter c).line = decoder.line + if c = '\n' then 1 else 0 := by
  unfold outside
  by_cases hfeed : c = '\n'
  · simp [hfeed, newline]
  · rw [if_neg hfeed, if_neg hfeed]
    split
    · rfl
    · split
      · rfl
      · exact line_ordinary decoder c

/-- A line feed moves the decoder on by one line, wherever it stands. -/
theorem line_step (decoder : Decoder) (c : Char) :
    (decoder.step delimiter c).line = decoder.line + if c = '\n' then 1 else 0 := by
  unfold step
  cases decoder.mode with
  | plain => exact line_outside decoder c
  | carriageReturn =>
    by_cases hfeed : c = '\n'
    · simp [hfeed, newline]
    · have hreturn := @line_ordinary delimiter { decoder with mode := .plain } '\r'
      dsimp only
      rw [if_neg hfeed, line_outside, hreturn]
  | quoted =>
    by_cases hquote : c = '"'
    · simp [hquote]
    · by_cases hfeed : c = '\n' <;> simp [hquote, hfeed, push]
  | quoteSeen =>
    by_cases hquote : c = '"'
    · simp [hquote, push]
    · dsimp only
      rw [if_neg hquote, line_outside]

theorem line_read (decoder : Decoder) (text : List Char) :
    (decoder.read delimiter text).line = decoder.line + text.count '\n' := by
  induction text generalizing decoder with
  | nil => rfl
  | cons c text ih =>
    rw [read_cons, ih, line_step, List.count_cons]
    by_cases hfeed : c = '\n' <;> simp [hfeed, Nat.add_assoc, Nat.add_comm 1]

/-! ### The beginning of a line -/

/-- A line feed between quotes leaves the quoted field open. -/
theorem mode_step_feed {decoder : Decoder} (hmode : decoder.mode = .quoted) :
    (decoder.step delimiter '\n').mode = .quoted := by
  simp [step, push, hmode]

/-- A line feed outside quotes ends the record and leaves nothing open. -/
theorem step_feed_eq_atLine {decoder : Decoder} (hmode : decoder.mode ≠ .quoted) :
    decoder.step delimiter '\n' = atLine decoder.endRecord.records (decoder.line + 1) := by
  obtain ⟨records, fields, field, wasQuoted, mode, line, startLine⟩ := decoder
  cases mode with
  | plain =>
    simp [step, outside]
    rfl
  | carriageReturn =>
    simp [step]
    rfl
  | quoted => exact absurd rfl hmode
  | quoteSeen =>
    simp [step, outside]
    rfl

theorem mode_of_finish_eq_ok {decoder : Decoder} {records : List Record}
    (hfinish : decoder.finish delimiter = .ok records) : decoder.mode ≠ .quoted := by
  intro hmode
  rw [finish, hmode] at hfinish
  cases hfinish

/-- Behind a complete text the decoder stands at the beginning of a line. -/
theorem read_of_complete {text : String} {records : List Record}
    (htext : Complete delimiter text records) :
    start.read delimiter text.toList = atLine records.reverse (1 + text.toList.count '\n') := by
  obtain ⟨rfl | hlast, hdecode⟩ := htext
  · obtain rfl := Except.ok.inj hdecode
    rfl
  · obtain ⟨front, hfront⟩ := List.getLast?_eq_some_iff.mp hlast
    have hread : start.read delimiter text.toList =
        (start.read delimiter front).step delimiter '\n' := by
      rw [hfront, read_append]
      rfl
    rw [decode, hread] at hdecode
    have hmode : (start.read delimiter front).mode ≠ .quoted :=
      fun hquoted ↦ mode_of_finish_eq_ok hdecode (mode_step_feed hquoted)
    have hline : (start.read delimiter front).line + 1 = 1 + text.toList.count '\n' := by
      rw [line_read, hfront, List.count_append]
      rfl
    rw [step_feed_eq_atLine hmode, finish_atLine] at hdecode
    rw [hread, step_feed_eq_atLine hmode, hline, ← Except.ok.inj hdecode, List.reverse_reverse]

/-! ### Behind another text -/

/-- The decoder that has read the same behind a text with the given records, newest first, and
number of line feeds. -/
def behind (records : List Record) (lines : Nat) (decoder : Decoder) : Decoder :=
  { decoder with
    records := decoder.records.map (Record.lower lines) ++ records
    line := decoder.line + lines
    startLine := decoder.startLine + lines }

variable {records : List Record} {lines : Nat}

theorem behind_endRecord (decoder : Decoder) :
    (decoder.behind records lines).endRecord = decoder.endRecord.behind records lines := by
  unfold endRecord behind
  dsimp only
  split <;> rfl

theorem behind_newline (decoder : Decoder) :
    (decoder.behind records lines).newline = decoder.newline.behind records lines := by
  unfold newline
  rw [behind_endRecord]
  simp [behind, Nat.add_right_comm]

theorem behind_ordinary (decoder : Decoder) (c : Char) :
    (decoder.behind records lines).ordinary delimiter c =
      (decoder.ordinary delimiter c).behind records lines := by
  unfold ordinary
  rw [apply_ite (behind records lines)]
  rfl

theorem behind_outside (decoder : Decoder) (c : Char) :
    (decoder.behind records lines).outside delimiter c =
      (decoder.outside delimiter c).behind records lines := by
  simp only [outside, apply_ite (behind records lines), ← behind_newline, ← behind_ordinary]
  rfl

/-- What a character does depends neither on the records before nor on the line. -/
theorem step_behind (decoder : Decoder) (c : Char) :
    (decoder.behind records lines).step delimiter c =
      (decoder.step delimiter c).behind records lines := by
  obtain ⟨others, fields, field, wasQuoted, mode, line, startLine⟩ := decoder
  let plain : Decoder := ⟨others, fields, field, wasQuoted, .plain, line, startLine⟩
  cases mode with
  | plain => exact behind_outside plain c
  | carriageReturn =>
    change (if c = '\n' then (plain.behind records lines).newline
      else ((plain.behind records lines).ordinary delimiter '\r').outside delimiter c) =
        behind records lines (if c = '\n' then plain.newline
          else (plain.ordinary delimiter '\r').outside delimiter c)
    rw [behind_newline, behind_ordinary, behind_outside, apply_ite (behind records lines)]
  | quoted =>
    by_cases hquote : c = '"'
    · simp [step, behind, hquote]
    · by_cases hfeed : c = '\n' <;> simp [step, behind, push, hquote, hfeed, Nat.add_right_comm]
  | quoteSeen =>
    by_cases hquote : c = '"'
    · simp [step, behind, push, hquote]
    · simp only [step, hquote, if_false]
      exact behind_outside plain c

theorem read_behind (decoder : Decoder) (text : List Char) :
    (decoder.behind records lines).read delimiter text =
      (decoder.read delimiter text).behind records lines := by
  induction text generalizing decoder with
  | nil => rfl
  | cons c text ih => rw [read_cons, read_cons, step_behind, ih]

theorem flush_behind (decoder : Decoder) :
    (decoder.behind records lines).flush =
      records.reverse ++ decoder.flush.map (Record.lower lines) := by
  rw [flush_eq, flush_eq, behind_endRecord]
  simp [behind]

theorem finish_behind (decoder : Decoder) :
    (decoder.behind records lines).finish delimiter =
      decodedBehind records.reverse lines (decoder.finish delimiter) := by
  unfold finish
  have hmode : (decoder.behind records lines).mode = decoder.mode := rfl
  rw [hmode]
  cases decoder.mode with
  | plain => exact congrArg Except.ok (flush_behind decoder)
  | carriageReturn =>
    dsimp only [decodedBehind]
    rw [behind_ordinary, flush_behind]
  | quoted => rfl
  | quoteSeen => exact congrArg Except.ok (flush_behind decoder)

theorem atLine_eq_behind (records : List Record) (lines : Nat) :
    atLine records (1 + lines) = start.behind records lines := rfl

end Decoder

/-- A text behind a complete one is decoded as it is by itself, further down. -/
theorem Complete.decode_append {delimiter : Char} {first : String} {records : List Record}
    (hfirst : Complete delimiter first records) (second : String) :
    decode delimiter (first ++ second) =
      decodedBehind records (first.toList.count '\n') (decode delimiter second) := by
  rw [decode, String.toList_append, Decoder.read_append, Decoder.read_of_complete hfirst,
    Decoder.atLine_eq_behind, Decoder.read_behind, Decoder.finish_behind, List.reverse_reverse,
    decode]

/-- A text may be cut where a record can begin, whatever the delimiter is: at the beginning, or
behind a line feed that leaves no quoted field open. The records of both pieces follow each other,
and what is found in the second piece is found so many lines further down as the first has. -/
theorem decode_in_pieces (delimiter : Char) {first : String} (second : String)
    (hfirst : first = "" ∨
      first.toList.getLast? = some '\n' ∧ ∃ records, decode delimiter first = .ok records) :
    let lines := first.toList.count '\n'
    ∃ records, decode delimiter first = .ok records ∧
      (∀ others, decode delimiter second = .ok others → decode delimiter (first ++ second) =
        .ok (records ++ others.map fun record ↦ ⟨record.line + lines, record.fields⟩)) ∧
      ∀ line, decode delimiter second = .error ⟨line⟩ →
        decode delimiter (first ++ second) = .error ⟨line + lines⟩ := by
  have hcomplete : ∃ records, Complete delimiter first records := by
    rcases hfirst with rfl | ⟨hlast, records, hdecode⟩
    · exact ⟨[], Or.inl rfl, rfl⟩
    · exact ⟨records, Or.inr hlast, hdecode⟩
  obtain ⟨records, hcomplete⟩ := hcomplete
  refine ⟨records, hcomplete.decode_eq, fun others hothers ↦ ?_, fun line hline ↦ ?_⟩
  · rw [hcomplete.decode_append, hothers]
    rfl
  · rw [hcomplete.decode_append, hline]
    rfl

/-- Two pieces of a text whose delimiter is a quote. The first has a blank line and a field that
spans lines, and in the second a field is left open. -/
theorem decode_in_pieces_quotes :
    decode '"' "a\"b\n\r\n\"c\nd\"\n" = .ok [⟨1, ["a", "b"]⟩, ⟨3, ["c\nd"]⟩] ∧
      decode '"' "e\n\nf\"\"\n" = .error ⟨3⟩ ∧
      decode '"' ("a\"b\n\r\n\"c\nd\"\n" ++ "e\n\nf\"\"\n") = .error ⟨7⟩ := by
  have hdecode : decode '"' "a\"b\n\r\n\"c\nd\"\n" =
      .ok [⟨1, ["a", "b"]⟩, ⟨3, ["c\nd"]⟩] := rfl
  have herror : decode '"' "e\n\nf\"\"\n" = .error ⟨3⟩ := rfl
  obtain ⟨records, -, -, hfails⟩ :=
    decode_in_pieces '"' "e\n\nf\"\"\n" (Or.inr ⟨by decide, _, hdecode⟩)
  exact ⟨hdecode, herror, hfails 3 herror⟩

end FlatTables.Delimited
