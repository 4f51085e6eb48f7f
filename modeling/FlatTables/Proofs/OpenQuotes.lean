import FlatTables.Proofs.RecordPlaces

/-!
# Open quotes

A text that is not decoded ends between quotes. What is written behind it, up to the next quote, is
data of the field that is open, and the text fails as before. One quote closes the field. The text
is then decoded to the records before and the record that was open, which starts on the line that
was reported for it (`decode_behind_open_quote`).

At the end of the text the decoder holds all that this takes: the records before, the fields that
the open record has, and the value of the open field so far (`exists_openField`). Two facts hold
behind every character. Records start on lines that increase (`Decoder.LinesInOrder`), so the
record that was open starts below all others. A field between quotes is known to have been quoted
(`Decoder.KnowsQuotes`), so the record is not taken for a blank line, even if nothing stands between
the quotes.
-/

set_option autoImplicit false
set_option relaxedAutoImplicit false

namespace FlatTables.Delimited

variable {delimiter : Char}

namespace Decoder

variable {decoder : Decoder}

/-! ### Lines in order -/

/-- Each record starts further down than those before it, and the current record further down than
all of them, but not below the line on which the decoder stands. -/
structure LinesInOrder (decoder : Decoder) : Prop where
  newestFirst : decoder.records.Pairwise fun later earlier ↦ earlier.line < later.line
  lt_startLine : ∀ record ∈ decoder.records, record.line < decoder.startLine
  startLine_le : decoder.startLine ≤ decoder.line

/-- A record that ends has its place behind the others. -/
theorem LinesInOrder.endRecord (h : decoder.LinesInOrder) :
    (decoder.endRecord.records.Pairwise fun later earlier ↦ earlier.line < later.line) ∧
      ∀ record ∈ decoder.endRecord.records, record.line ≤ decoder.startLine := by
  have hbefore : ∀ record ∈ decoder.records, record.line ≤ decoder.startLine :=
    fun record hrecord ↦ Nat.le_of_lt (h.lt_startLine record hrecord)
  rcases decoder.records_endRecord with hkept | ⟨fields, -, hadded⟩
  · rw [hkept]
    exact ⟨h.newestFirst, hbefore⟩
  · rw [hadded]
    exact ⟨h.newestFirst.cons h.lt_startLine, List.forall_mem_cons.mpr ⟨Nat.le_refl _, hbefore⟩⟩

theorem linesInOrder_step (h : decoder.LinesInOrder) (c : Char) :
    (decoder.step delimiter c).LinesInOrder := by
  rcases @step_eq_atLine_or_sameRecords delimiter decoder c with hline | ⟨hrecords, hstart⟩
  · obtain ⟨hnewestFirst, hbefore⟩ := h.endRecord
    rw [hline]
    refine ⟨hnewestFirst, fun record hrecord ↦ ?_, Nat.le_refl _⟩
    exact Nat.lt_succ_of_le (Nat.le_trans (hbefore record hrecord) h.startLine_le)
  · refine ⟨?_, ?_, ?_⟩
    · rw [hrecords]
      exact h.newestFirst
    · rw [hrecords, hstart]
      exact h.lt_startLine
    · rw [hstart, line_step]
      exact Nat.le_trans h.startLine_le (Nat.le_add_right _ _)

theorem linesInOrder_read (delimiter : Char) (text : List Char) :
    (start.read delimiter text).LinesInOrder :=
  List.foldlRecOn text (step delimiter)
    (⟨.nil, fun _ h ↦ absurd h List.not_mem_nil, Nat.le_refl _⟩ : start.LinesInOrder)
    fun _ h c _ ↦ linesInOrder_step h c

/-! ### Quoted fields -/

/-- Between quotes, and behind a quote that may have closed them, the current field is known to have
had an opening quote. Behind such a quote it has to be known since a second one goes back. -/
def KnowsQuotes (decoder : Decoder) : Prop :=
  decoder.mode = .quoted ∨ decoder.mode = .quoteSeen → decoder.wasQuoted = true

theorem knowsQuotes_of_plain (hplain : decoder.mode = .plain) : decoder.KnowsQuotes := by
  rintro (hquoted | hseen)
  · cases hplain.symm.trans hquoted
  · cases hplain.symm.trans hseen

theorem mode_ordinary (decoder : Decoder) (c : Char) :
    (decoder.ordinary delimiter c).mode = decoder.mode := by
  unfold ordinary
  split
  · rfl
  · rfl

theorem knowsQuotes_outside (hplain : decoder.mode = .plain) (c : Char) :
    (decoder.outside delimiter c).KnowsQuotes := by
  unfold outside
  split
  · exact fun _ ↦ rfl
  · split
    · rintro (hquoted | hseen)
      · cases hquoted
      · cases hseen
    · split
      · exact knowsQuotes_of_plain hplain
      · exact knowsQuotes_of_plain ((mode_ordinary decoder c).trans hplain)

theorem knowsQuotes_step (h : decoder.KnowsQuotes) (c : Char) :
    (decoder.step delimiter c).KnowsQuotes := by
  unfold step
  cases hmode : decoder.mode with
  | plain => exact knowsQuotes_outside hmode c
  | carriageReturn =>
    dsimp only
    split
    · exact knowsQuotes_of_plain rfl
    · exact knowsQuotes_outside (mode_ordinary _ _) c
  | quoted =>
    have hquoted : decoder.wasQuoted = true := h (Or.inl hmode)
    dsimp only
    split
    · exact fun _ ↦ hquoted
    · split
      · exact fun _ ↦ hquoted
      · exact fun _ ↦ hquoted
  | quoteSeen =>
    have hquoted : decoder.wasQuoted = true := h (Or.inr hmode)
    dsimp only
    split
    · exact fun _ ↦ hquoted
    · exact knowsQuotes_outside rfl c

theorem knowsQuotes_read (delimiter : Char) (text : List Char) :
    (start.read delimiter text).KnowsQuotes :=
  List.foldlRecOn text (step delimiter) (knowsQuotes_of_plain rfl : start.KnowsQuotes)
    fun _ h c _ ↦ knowsQuotes_step h c

/-! ### The end of the text -/

/-- The decoder fails between quotes, with the line that the record starts on. -/
theorem finish_eq_error_iff {line : Nat} :
    decoder.finish delimiter = .error ⟨line⟩ ↔
      decoder.mode = .quoted ∧ decoder.startLine = line := by
  unfold finish
  cases decoder.mode <;> simp

/-- A quote at the end of the text closes the field, which is the last one of the last record. -/
theorem finish_step_quote (hmode : decoder.mode = .quoted) (hquoted : decoder.wasQuoted = true) :
    (decoder.step delimiter '"').finish delimiter =
      .ok (decoder.records.reverse ++ [⟨decoder.startLine,
        decoder.fields.reverse ++ [String.ofList decoder.field.reverse]⟩]) := by
  have hstep : decoder.step delimiter '"' = { decoder with mode := .quoteSeen } := by
    simp [step, hmode]
  rw [hstep, finish]
  dsimp only
  rw [flush_eq]
  simp [endRecord, hquoted]

end Decoder

/-- The lines that records start on increase. -/
theorem pairwise_line_of_decode {text : String} {records : List Record}
    (hdecode : decode delimiter text = .ok records) :
    records.Pairwise fun earlier later ↦ earlier.line < later.line := by
  have hlines := Decoder.linesInOrder_read delimiter text.toList
  have hbefore := List.pairwise_reverse.mpr hlines.newestFirst
  rcases records_of_decode hdecode with rfl | ⟨fields, -, rfl⟩
  · exact hbefore
  · refine List.pairwise_append.mpr ⟨hbefore, List.pairwise_singleton _ _, ?_⟩
    intro record hrecord last hlast
    obtain rfl := List.mem_singleton.mp hlast
    exact hlines.lt_startLine record (List.mem_reverse.mp hrecord)

theorem quotedBody_of_notMem {text : List Char} (hquote : '"' ∉ text) : quotedBody text = text :=
  calc quotedBody text
      = text.flatMap fun c ↦ [c] :=
        List.flatMap_congr fun _ hc ↦ if_neg (ne_of_mem_of_not_mem hc hquote)
    _ = text := List.flatMap_singleton' text

/-- A text that is not decoded ends in a field between quotes. The field goes on with whatever is
written behind the text with doubled quotes, and one more quote ends it. -/
theorem exists_openField {text : String} {line : Nat}
    (hopen : decode delimiter text = .error ⟨line⟩) :
    ∃ earlier fields value, ∀ more : String,
      decode delimiter (text ++ String.ofList (quotedBody more.toList)) = .error ⟨line⟩ ∧
      decode delimiter (text ++ String.ofList (quotedBody more.toList) ++ "\"") =
        .ok (earlier ++ [⟨line, fields ++ [value ++ more]⟩]) := by
  have hknows := Decoder.knowsQuotes_read delimiter text.toList
  obtain ⟨hmode, hstart⟩ := Decoder.finish_eq_error_iff.mp hopen
  generalize hdecoder : Decoder.start.read delimiter text.toList = decoder at hknows hmode hstart
  refine ⟨decoder.records.reverse, decoder.fields.reverse, String.ofList decoder.field.reverse,
    fun more ↦ ?_⟩
  let later : Decoder :=
    { decoder with
      field := more.toList.reverse ++ decoder.field
      line := decoder.line + more.toList.count '\n' }
  have hread : Decoder.start.read delimiter
      (text ++ String.ofList (quotedBody more.toList)).toList = later := by
    rw [String.toList_append, Decoder.read_append, hdecoder, String.toList_ofList,
      Decoder.read_quotedBody more.toList decoder hmode]
  constructor
  · rw [decode, hread]
    exact Decoder.finish_eq_error_iff.mpr ⟨hmode, hstart⟩
  · have hclosed := @Decoder.finish_step_quote delimiter later hmode (hknows (Or.inl hmode))
    rw [decode, String.toList_append, Decoder.read_append, hread]
    simpa [later, hstart, String.ofList_append] using hclosed

/-- An open quote takes what is written behind the text, up to the next quote, and the text fails
with the same line. One quote closes it. The text is decoded then, its last record starts on the
line, all others start before it, and what has been taken stands at the end of the last field. -/
theorem decode_behind_open_quote (delimiter : Char) {text : String} {line : Nat}
    (hopen : decode delimiter text = .error ⟨line⟩) :
    (∀ rest : String, '"' ∉ rest.toList → decode delimiter (text ++ rest) = .error ⟨line⟩) ∧
      ∃ earlier fields value, (∀ record ∈ earlier, record.line < line) ∧
        decode delimiter (text ++ "\"") = .ok (earlier ++ [⟨line, fields ++ [value]⟩]) ∧
        ∀ rest : String, '"' ∉ rest.toList →
          decode delimiter (text ++ rest ++ "\"") =
            .ok (earlier ++ [⟨line, fields ++ [value ++ rest]⟩]) := by
  obtain ⟨earlier, fields, value, hmore⟩ := exists_openField hopen
  have hrest : ∀ rest : String, '"' ∉ rest.toList →
      decode delimiter (text ++ rest) = .error ⟨line⟩ ∧
        decode delimiter (text ++ rest ++ "\"") =
          .ok (earlier ++ [⟨line, fields ++ [value ++ rest]⟩]) := by
    intro rest hquote
    have hdecode := hmore rest
    rwa [quotedBody_of_notMem hquote, String.ofList_toList] at hdecode
  have hclosed : decode delimiter (text ++ "\"") = .ok (earlier ++ [⟨line, fields ++ [value]⟩]) := by
    have hdecode := (hrest "" (by simp)).2
    rwa [String.append_empty, String.append_empty] at hdecode
  obtain ⟨-, -, hlines⟩ := List.pairwise_append.mp (pairwise_line_of_decode hclosed)
  exact ⟨fun rest hquote ↦ (hrest rest hquote).1, earlier, fields, value,
    fun record hrecord ↦ hlines record hrecord _ (List.mem_singleton.mpr rfl), hclosed,
    fun rest hquote ↦ (hrest rest hquote).2⟩

/-- A text with a quote for its delimiter. It ends behind a doubled quote, in a field that spans
lines. -/
def halfQuotedText : String :=
  "a\"b\n\n\"c\n\"\""

theorem decode_behind_open_quote_halfQuotedText :
    decode '"' halfQuotedText = .error ⟨3⟩ ∧ '"' ∉ "d\n".toList ∧
      decode '"' (halfQuotedText ++ "d\n") = .error ⟨3⟩ ∧
      decode '"' (halfQuotedText ++ "\"") = .ok [⟨1, ["a", "b"]⟩, ⟨3, ["c\n\""]⟩] ∧
      decode '"' (halfQuotedText ++ "d\n" ++ "\"") =
        .ok [⟨1, ["a", "b"]⟩, ⟨3, ["c\n\"d\n"]⟩] := by
  have hopen : decode '"' halfQuotedText = .error ⟨3⟩ := rfl
  have hclosed : decode '"' (halfQuotedText ++ "\"") =
      .ok ([⟨1, ["a", "b"]⟩] ++ [⟨3, [] ++ ["c\n\""]⟩]) := rfl
  have hquote : '"' ∉ "d\n".toList := by decide
  obtain ⟨hfails, earlier, fields, value, -, hcloses, htakes⟩ := decode_behind_open_quote '"' hopen
  obtain ⟨rfl, hlast⟩ :=
    List.append_inj' (Except.ok.inj (hcloses.symm.trans hclosed)) rfl
  obtain ⟨-, hfields⟩ := Record.mk.inj (List.cons.inj hlast).1
  obtain ⟨rfl, hvalue⟩ := List.append_inj' hfields rfl
  obtain rfl := (List.cons.inj hvalue).1
  exact ⟨hopen, hquote, hfails "d\n" hquote, hclosed, htakes "d\n" hquote⟩

end FlatTables.Delimited
