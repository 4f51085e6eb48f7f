import FlatTables.Proofs.AppendedTexts

/-!
# Where records start

A record starts where the text before it is complete, and it goes on to the first line feed that
leaves no quoted field open, or to the end of the text. Said in this way the place of a record does
not depend on how the decoder counts: a line of records is a text that no shorter one completes
(`OneLine`), and a text that begins with a record begins with such a line that is decoded to just
this record (`BeginsWith`).

The line that the decoder reports for a record is the line of this place, one more than the line
feeds before it (`startsOn_of_decode`), and so is the line that it reports for a quoted field that
is left open (`exists_unclosed`). For the proofs a text is cut into its lines (`exists_cut`). Within
a line the decoder keeps the line that it began with, however many line feeds stand between quotes
(`Decoder.read_of_incomplete`), and behind a line it goes on as from the beginning.
-/

set_option autoImplicit false
set_option relaxedAutoImplicit false

namespace FlatTables.Delimited

variable {delimiter : Char}

/-! ### Lines of records -/

/-- The text is one line of records, with its end or without one: no record ends inside it. -/
structure OneLine (delimiter : Char) (text : String) : Prop where
  ne_empty : text ≠ ""
  whole : ∀ front back records, text = front ++ back → front ≠ "" →
    Complete delimiter front records → back = ""

/-- The text begins with the record of these fields. -/
inductive BeginsWith (delimiter : Char) (fields : List String) : (text : String) → Prop
  | line {own after : String} {line : Nat} (hown : OneLine delimiter own)
      (hrecord : decode delimiter own = .ok [⟨line, fields⟩])
      (hends : after = "" ∨ own.toList.getLast? = some '\n') :
      BeginsWith delimiter fields (own ++ after)

/-- The text begins with a record that has a quoted field which nothing closes. -/
structure Unclosed (delimiter : Char) (text : String) : Prop where
  oneLine : OneLine delimiter text
  fails : ∃ unterminated, decode delimiter text = .error unterminated

/-- Behind the records before it, a record starts on its line: one more than the line feeds before
the place where it begins. -/
def StartsOn (delimiter : Char) (text : String) (earlier : List Record) (record : Record) : Prop :=
  ∃ before rest, text = before ++ rest ∧ Complete delimiter before earlier ∧
    BeginsWith delimiter record.fields rest ∧ record.line = 1 + before.toList.count '\n'

/-- A text cut into lines, all of them complete but for the last. -/
inductive Cut (delimiter : Char) : (text : String) → Prop
  | nothing : Cut delimiter ""
  | last {own : String} (hown : OneLine delimiter own) : Cut delimiter own
  | more {own after : String} {records : List Record} (hown : OneLine delimiter own)
      (hcomplete : Complete delimiter own records) (hafter : Cut delimiter after) :
      Cut delimiter (own ++ after)

/-- A text begins with a line. -/
theorem exists_oneLine (delimiter : Char) {text : String} (htext : text ≠ "") :
    ∃ own after, text = own ++ after ∧ OneLine delimiter own ∧
      (after = "" ∨ ∃ records, Complete delimiter own records) := by
  induction hlength : text.length using Nat.strongRecOn generalizing text with
  | _ length ih =>
    by_cases hwhole : OneLine delimiter text
    · exact ⟨text, "", by simp, hwhole, Or.inl rfl⟩
    · obtain ⟨front, back, records, hparts, hfront, hcomplete, hback⟩ :
          ∃ front back records, text = front ++ back ∧ front ≠ "" ∧
            Complete delimiter front records ∧ back ≠ "" := by
        by_contra hnone
        refine hwhole ⟨htext, fun front back records hparts hfront hcomplete ↦ ?_⟩
        by_contra hback
        exact hnone ⟨front, back, records, hparts, hfront, hcomplete, hback⟩
      have hshorter : front.length < length := by
        have hsome : 0 < back.length := by
          rw [Nat.pos_iff_ne_zero, ne_eq, String.length_eq_zero_iff]
          exact hback
        rw [← hlength, hparts, String.length_append]
        omega
      obtain ⟨own, after, rfl, hown, hends⟩ := ih _ hshorter hfront rfl
      refine ⟨own, after ++ back, by rw [hparts, String.append_assoc], hown, Or.inr ?_⟩
      rcases hends with rfl | hends
      · exact ⟨records, by simpa using hcomplete⟩
      · exact hends

theorem exists_cut (delimiter : Char) (text : String) : Cut delimiter text := by
  induction hlength : text.length using Nat.strongRecOn generalizing text with
  | _ length ih =>
    by_cases htext : text = ""
    · rw [htext]
      exact .nothing
    · obtain ⟨own, after, rfl, hown, rfl | ⟨records, hcomplete⟩⟩ :=
        exists_oneLine delimiter htext
      · rw [String.append_empty]
        exact .last hown
      · have hshorter : after.length < length := by
          have hsome : 0 < own.length := by
            rw [Nat.pos_iff_ne_zero, ne_eq, String.length_eq_zero_iff]
            exact hown.ne_empty
          rw [← hlength, String.length_append]
          omega
        exact .more hown hcomplete (ih _ hshorter after rfl)

/-! ### Within a line -/

namespace Decoder

theorem records_endRecord (decoder : Decoder) :
    decoder.endRecord.records = decoder.records ∨
      ∃ fields, fields ≠ [] ∧
        decoder.endRecord.records = ⟨decoder.startLine, fields⟩ :: decoder.records := by
  unfold endRecord
  dsimp only
  split
  · exact Or.inl rfl
  · refine Or.inr ⟨_, ?_, rfl⟩
    simp

/-- The decoder has the records of another one and the line that its current record starts on. -/
def SameRecords (decoder other : Decoder) : Prop :=
  decoder.records = other.records ∧ decoder.startLine = other.startLine

theorem sameRecords_ordinary (decoder : Decoder) (c : Char) :
    (decoder.ordinary delimiter c).SameRecords decoder := by
  unfold ordinary
  split
  · exact ⟨rfl, rfl⟩
  · exact ⟨rfl, rfl⟩

theorem sameRecords_outside (decoder : Decoder) {c : Char} (hfeed : c ≠ '\n') :
    (decoder.outside delimiter c).SameRecords decoder := by
  unfold outside
  rw [if_neg hfeed]
  split
  · exact ⟨rfl, rfl⟩
  · split
    · exact ⟨rfl, rfl⟩
    · exact sameRecords_ordinary decoder c

/-- Only a line feed outside quotes ends a record. -/
theorem sameRecords_step {decoder : Decoder} {c : Char}
    (hopen : c = '\n' → decoder.mode = .quoted) :
    (decoder.step delimiter c).SameRecords decoder := by
  obtain ⟨records, fields, field, wasQuoted, mode, line, startLine⟩ := decoder
  let plain : Decoder := ⟨records, fields, field, wasQuoted, .plain, line, startLine⟩
  cases mode with
  | plain => exact sameRecords_outside plain fun hfeed ↦ Mode.noConfusion (hopen hfeed)
  | carriageReturn =>
    have hfeed : c ≠ '\n' := fun hfeed ↦ Mode.noConfusion (hopen hfeed)
    obtain ⟨hrecords, hstart⟩ := @sameRecords_ordinary delimiter plain '\r'
    obtain ⟨hrecords', hstart'⟩ :=
      @sameRecords_outside delimiter (plain.ordinary delimiter '\r') c hfeed
    simp only [step, hfeed, if_false]
    exact ⟨hrecords'.trans hrecords, hstart'.trans hstart⟩
  | quoted =>
    unfold step
    dsimp only
    split
    · exact ⟨rfl, rfl⟩
    · split
      · exact ⟨rfl, rfl⟩
      · exact ⟨rfl, rfl⟩
  | quoteSeen =>
    have hfeed : c ≠ '\n' := fun hfeed ↦ Mode.noConfusion (hopen hfeed)
    by_cases hquote : c = '"'
    · simp only [step, hquote, if_true]
      exact ⟨rfl, rfl⟩
    · simp only [step, hquote, if_false]
      exact sameRecords_outside plain hfeed

/-- A character ends the record, or it leaves the records and the beginning of the current one. -/
theorem step_eq_atLine_or_sameRecords (decoder : Decoder) (c : Char) :
    decoder.step delimiter c = atLine decoder.endRecord.records (decoder.line + 1) ∨
      (decoder.step delimiter c).SameRecords decoder := by
  by_cases hends : c = '\n' ∧ decoder.mode ≠ .quoted
  · obtain ⟨rfl, hmode⟩ := hends
    exact Or.inl (step_feed_eq_atLine hmode)
  · refine Or.inr (sameRecords_step fun hfeed ↦ ?_)
    by_contra hmode
    exact hends ⟨hfeed, hmode⟩

/-- Until something is complete, the decoder has no record and has not left the first line. -/
theorem read_of_incomplete (text : List Char)
    (hincomplete : ∀ front, front <+: text → front ≠ [] →
      ∀ records, ¬ Complete delimiter (String.ofList front) records) :
    (start.read delimiter text).SameRecords start := by
  induction text using List.reverseRecOn with
  | nil => exact ⟨rfl, rfl⟩
  | append_singleton text c ih =>
    obtain ⟨hrecords, hstart⟩ := ih fun front hfront ↦
      hincomplete front (hfront.trans (List.prefix_append _ _))
    have hread : start.read delimiter (text ++ [c]) =
        (start.read delimiter text).step delimiter c := read_append _ _ _ _
    have hopen : c = '\n' → (start.read delimiter text).mode = .quoted := by
      rintro rfl
      by_contra hmode
      refine hincomplete _ (List.prefix_refl _) (by simp)
        (start.read delimiter text).endRecord.records.reverse ⟨Or.inr (by simp), ?_⟩
      rw [decode, String.toList_ofList, hread, step_feed_eq_atLine hmode, finish_atLine]
    obtain ⟨hrecords', hstart'⟩ := @sameRecords_step delimiter _ _ hopen
    rw [hread]
    exact ⟨hrecords'.trans hrecords, hstart'.trans hstart⟩

/-- The end of the text ends at most one record, which starts where the current one does. -/
theorem finish_cases (decoder : Decoder) :
    decoder.finish delimiter = .error ⟨decoder.startLine⟩ ∨
      decoder.finish delimiter = .ok decoder.records.reverse ∨
      ∃ fields, fields ≠ [] ∧ decoder.finish delimiter =
        .ok (decoder.records.reverse ++ [⟨decoder.startLine, fields⟩]) := by
  -- A flush ends the record of a decoder that has the same records and the same start.
  have hflush {other : Decoder} (hsame : other.SameRecords decoder)
      (hfinish : decoder.finish delimiter = .ok other.flush) :
      decoder.finish delimiter = .ok decoder.records.reverse ∨
        ∃ fields, fields ≠ [] ∧ decoder.finish delimiter =
          .ok (decoder.records.reverse ++ [⟨decoder.startLine, fields⟩]) := by
    obtain ⟨hrecords, hstart⟩ := hsame
    rw [hfinish, flush_eq, ← hrecords, ← hstart]
    rcases other.records_endRecord with hkept | ⟨fields, hfields, hadded⟩
    · exact Or.inl (by rw [hkept])
    · exact Or.inr ⟨fields, hfields, by rw [hadded, List.reverse_cons]⟩
  cases hmode : decoder.mode with
  | plain => exact Or.inr (hflush ⟨rfl, rfl⟩ (by rw [finish, hmode]))
  | carriageReturn =>
    exact Or.inr (hflush (sameRecords_ordinary decoder '\r') (by rw [finish, hmode]))
  | quoted => exact Or.inl (by rw [finish, hmode])
  | quoteSeen => exact Or.inr (hflush ⟨rfl, rfl⟩ (by rw [finish, hmode]))

end Decoder

/-- A decoded text has the records that the decoder has completed, and perhaps the one that the end
of the text completes. -/
theorem records_of_decode {text : String} {records : List Record}
    (hdecode : decode delimiter text = .ok records) :
    let decoder := Decoder.start.read delimiter text.toList
    records = decoder.records.reverse ∨ ∃ fields, fields ≠ [] ∧
      records = decoder.records.reverse ++ [⟨decoder.startLine, fields⟩] := by
  unfold decode at hdecode
  rcases @Decoder.finish_cases delimiter (Decoder.start.read delimiter text.toList) with
    hfails | hkept | ⟨fields, hfields, hadded⟩
  · cases hfails.symm.trans hdecode
  · exact Or.inl (Except.ok.inj (hdecode.symm.trans hkept))
  · exact Or.inr ⟨fields, hfields, Except.ok.inj (hdecode.symm.trans hadded)⟩

/-- A line holds at most one record, which starts on the line, and so does a record of it with a
quoted field that is left open. -/
theorem OneLine.decode_cases {own : String} (hown : OneLine delimiter own) :
    decode delimiter own = .error ⟨1⟩ ∨ decode delimiter own = .ok [] ∨
      ∃ fields, decode delimiter own = .ok [⟨1, fields⟩] := by
  obtain ⟨text, c, htext⟩ : ∃ text c, own.toList = text ++ [c] := by
    rcases List.eq_nil_or_concat' own.toList with hempty | hconcat
    · exact absurd (String.toList_eq_nil_iff.mp hempty) hown.ne_empty
    · exact hconcat
  have hincomplete : ∀ front, front <+: text → front ≠ [] →
      ∀ records, ¬ Complete delimiter (String.ofList front) records := by
    rintro front ⟨back, rfl⟩ hfront records hcomplete
    have hparts : own = String.ofList front ++ String.ofList (back ++ [c]) := by
      rw [← String.ofList_append, ← List.append_assoc, ← htext, String.ofList_toList]
    have hback := hown.whole _ _ records hparts (by simpa using hfront) hcomplete
    simp at hback
  obtain ⟨hrecords, hstart⟩ := @Decoder.read_of_incomplete delimiter text hincomplete
  generalize hfront : Decoder.start.read delimiter text = front at hrecords hstart
  have hdecode : decode delimiter own = (front.step delimiter c).finish delimiter := by
    rw [decode, htext, Decoder.read_append, hfront]
    rfl
  rw [hdecode]
  rcases @Decoder.step_eq_atLine_or_sameRecords delimiter front c with
    hline | ⟨hrecords', hstart'⟩
  · rw [hline, Decoder.finish_atLine]
    rcases front.records_endRecord with hkept | ⟨fields, -, hadded⟩
    · exact Or.inr (Or.inl (by rw [hkept, hrecords]; rfl))
    · exact Or.inr (Or.inr ⟨fields, by rw [hadded, hrecords, hstart]; rfl⟩)
  · have hcases := @Decoder.finish_cases delimiter (front.step delimiter c)
    rw [hrecords', hstart', hrecords, hstart] at hcases
    rcases hcases with hopen | hblank | ⟨fields, -, hone⟩
    · exact Or.inl hopen
    · exact Or.inr (Or.inl hblank)
    · exact Or.inr (Or.inr ⟨fields, hone⟩)

/-- A quoted field that is left open in the first record is reported with the first line. -/
theorem Unclosed.decode_eq {text : String} (htext : Unclosed delimiter text) :
    decode delimiter text = .error ⟨1⟩ := by
  obtain ⟨hline, unterminated, hfails⟩ := htext
  rcases hline.decode_cases with hopen | hblank | ⟨fields, hone⟩
  · exact hopen
  · cases hblank.symm.trans hfails
  · cases hone.symm.trans hfails

/-! ### The places of records -/

/-- Two complete texts behind one another are complete. -/
theorem Complete.append {first second : String} {records others : List Record}
    (hfirst : Complete delimiter first records) (hsecond : Complete delimiter second others) :
    Complete delimiter (first ++ second)
      (records ++ others.map (Record.lower (first.toList.count '\n'))) := by
  refine ⟨?_, by rw [hfirst.decode_append, hsecond.decode_eq]; rfl⟩
  rcases hsecond.ends with rfl | hlast
  · rw [String.append_empty]
    exact hfirst.ends
  · right
    rw [String.toList_append, List.getLast?_append, hlast]
    rfl

theorem complete_empty (delimiter : Char) : Complete delimiter "" [] :=
  ⟨Or.inl rfl, rfl⟩

/-- A text that begins with a record has it on its first line. -/
theorem startsOn_of_oneLine {own after : String} {fields : List String}
    (hown : OneLine delimiter own) (hrecord : decode delimiter own = .ok [⟨1, fields⟩])
    (hends : after = "" ∨ own.toList.getLast? = some '\n') :
    StartsOn delimiter (own ++ after) [] ⟨1, fields⟩ :=
  ⟨"", own ++ after, by simp, complete_empty delimiter, .line hown hrecord hends, rfl⟩

/-- Behind a complete text a record starts so much further down. -/
theorem StartsOn.behind {own after : String} {records earlier : List Record} {record : Record}
    (hown : Complete delimiter own records) (hstarts : StartsOn delimiter after earlier record) :
    StartsOn delimiter (own ++ after)
      (records ++ earlier.map (Record.lower (own.toList.count '\n')))
      (record.lower (own.toList.count '\n')) := by
  obtain ⟨before, rest, rfl, hbefore, hrest, hline⟩ := hstarts
  refine ⟨own ++ before, rest, String.append_assoc.symm, hown.append hbefore, hrest, ?_⟩
  change record.line + _ = _
  rw [hline, String.toList_append, List.count_append]
  omega

/-- A record starts on the line that the decoder reports for it. -/
theorem startsOn_of_decode {text : String} {earlier later : List Record} {record : Record}
    (hdecode : decode delimiter text = .ok (earlier ++ record :: later)) :
    StartsOn delimiter text earlier record := by
  induction exists_cut delimiter text generalizing earlier later record with
  | nothing =>
    have hnone := Except.ok.inj ((complete_empty delimiter).decode_eq.symm.trans hdecode)
    simp at hnone
  | @last own hown =>
    rcases hown.decode_cases with hfails | hblank | ⟨fields, hone⟩
    · rw [hfails] at hdecode
      cases hdecode
    · have hnone := Except.ok.inj (hblank.symm.trans hdecode)
      simp at hnone
    · have hrecords := Except.ok.inj (hone.symm.trans hdecode)
      cases earlier with
      | nil =>
        obtain ⟨rfl, -⟩ := List.cons.inj hrecords
        simpa using @startsOn_of_oneLine delimiter own "" fields hown hone (Or.inl rfl)
      | cons first earlier => simp at hrecords
  | @more own after records hown hcomplete _ ih =>
    rw [hcomplete.decode_append] at hdecode
    cases hafter : decode delimiter after with
    | error unterminated =>
      rw [hafter] at hdecode
      cases hdecode
    | ok others =>
      rw [hafter] at hdecode
      have hrecords := Except.ok.inj hdecode
      have hbehind {earlier : List Record}
          (hothers : others.map (Record.lower (own.toList.count '\n')) =
            earlier ++ record :: later) :
          StartsOn delimiter (own ++ after) (records ++ earlier) record := by
        obtain ⟨first, rest, rfl, rfl, hrest⟩ := List.map_eq_append_iff.mp hothers
        obtain ⟨second, third, rfl, rfl, -⟩ := List.map_eq_cons_iff.mp hrest
        exact (ih hafter).behind hcomplete
      rcases hown.decode_cases with hfails | hblank | ⟨fields, hone⟩
      · cases hfails.symm.trans hcomplete.decode_eq
      · obtain rfl := Except.ok.inj (hblank.symm.trans hcomplete.decode_eq)
        exact hbehind hrecords
      · obtain rfl := Except.ok.inj (hone.symm.trans hcomplete.decode_eq)
        cases earlier with
        | nil =>
          obtain ⟨rfl, -⟩ := List.cons.inj hrecords
          exact startsOn_of_oneLine hown hone
            (Or.inr (hcomplete.ends.resolve_left hown.ne_empty))
        | cons first earlier =>
          obtain ⟨rfl, hothers⟩ := List.cons.inj hrecords
          exact hbehind hothers

/-- The record with a quoted field that is left open starts on the line that the decoder reports. -/
theorem exists_unclosed {text : String} {unterminated : Unterminated}
    (hdecode : decode delimiter text = .error unterminated) :
    ∃ before rest records, text = before ++ rest ∧ Complete delimiter before records ∧
      Unclosed delimiter rest ∧ unterminated.line = 1 + before.toList.count '\n' := by
  induction exists_cut delimiter text generalizing unterminated with
  | nothing => cases hdecode
  | @last own hown =>
    refine ⟨"", own, [], by simp, complete_empty delimiter, ⟨hown, _, hdecode⟩, ?_⟩
    rcases hown.decode_cases with hfails | hblank | ⟨fields, hone⟩
    · obtain rfl := Except.error.inj (hfails.symm.trans hdecode)
      rfl
    · cases hblank.symm.trans hdecode
    · cases hone.symm.trans hdecode
  | @more own after records hown hcomplete _ ih =>
    rw [hcomplete.decode_append] at hdecode
    cases hafter : decode delimiter after with
    | ok others =>
      rw [hafter] at hdecode
      cases hdecode
    | error open' =>
      rw [hafter] at hdecode
      obtain rfl := Except.error.inj hdecode
      obtain ⟨before, rest, others, rfl, hbefore, hrest, hline⟩ := ih hafter
      refine ⟨own ++ before, rest, _, String.append_assoc.symm, hcomplete.append hbefore, hrest, ?_⟩
      change open'.line + _ = _
      rw [hline, String.toList_append, List.count_append]
      omega

end FlatTables.Delimited
