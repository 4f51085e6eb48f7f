import FlatTables.Proofs.LoadOutcomes

/-!
# The lines of malformed texts

A text that does not load has a record to blame (`Table.Culprit`): the one with a quoted field that
nothing closes, the header that repeats a name, or the first row that does not fit. A quoted field
and a row are reported with the line on which the record starts, whatever blank lines and fields
that span lines stand before it. A repeated name is always reported with the first line. This is the
line of the header only if no blank line stands before it (`line_of_malformed`,
`duplicateColumn_lowHeader`).
-/

set_option autoImplicit false
set_option relaxedAutoImplicit false

namespace FlatTables

open Delimited

/-- A text that begins with a record is decoded to it first, if it is decoded. -/
theorem Delimited.BeginsWith.decode_cases {delimiter : Char} {fields : List String} {text : String}
    (hbegins : BeginsWith delimiter fields text) :
    (∃ others, decode delimiter text = .ok (⟨1, fields⟩ :: others)) ∨
      ∃ unterminated, decode delimiter text = .error unterminated := by
  obtain @⟨own, after, line, hown, hrecord, hends⟩ := hbegins
  obtain rfl : line = 1 := by
    rcases hown.decode_cases with h | h | ⟨others, h⟩
    · cases h.symm.trans hrecord
    · cases h.symm.trans hrecord
    · cases h.symm.trans hrecord
      rfl
  rcases hends with rfl | hlast
  · exact Or.inl ⟨[], by rwa [String.append_empty]⟩
  · have hcomplete : Complete delimiter own _ := ⟨Or.inr hlast, hrecord⟩
    rw [hcomplete.decode_append]
    cases decode delimiter after with
    | ok others => exact Or.inl ⟨_, rfl⟩
    | error unterminated => exact Or.inr ⟨_, rfl⟩

/-- Complete text has a line feed, unless it is empty. -/
theorem Delimited.Complete.count_eq_zero_iff {delimiter : Char} {text : String}
    {records : List Record} (hcomplete : Complete delimiter text records) :
    text.toList.count '\n' = 0 ↔ text = "" := by
  constructor
  · intro hcount
    refine hcomplete.ends.resolve_right fun hlast ↦ ?_
    exact List.count_eq_zero.mp hcount (List.mem_of_getLast? hlast)
  · rintro rfl
    rfl

/-- A text begins with the record that it is decoded to on the first line. -/
theorem Delimited.beginsWith_of_decode {delimiter : Char} {fields : List String} {text : String}
    {later : List Record} (hdecode : decode delimiter text = .ok (⟨1, fields⟩ :: later)) :
    BeginsWith delimiter fields text := by
  obtain ⟨before, rest, rfl, hbefore, hrest, hline⟩ :=
    @startsOn_of_decode delimiter text [] later ⟨1, fields⟩ hdecode
  have hnone : before.toList.count '\n' = 0 := by
    have hfirst : 1 = 1 + before.toList.count '\n' := hline
    omega
  obtain rfl := hbefore.count_eq_zero_iff.mp hnone
  rwa [String.empty_append]

namespace Table

/-- The record to blame for a flaw, which begins the rest of a text behind what stands before it. -/
inductive Culprit (config : Config) (before rest : String) : Flaw → Prop
  /-- A quoted field of the record is left open. -/
  | openRecord {records : List Record} (hbefore : Complete config.delimiter before records)
      (hrest : Unclosed config.delimiter rest) : Culprit config before rest .unterminatedQuote
  /-- The first record repeats a name. -/
  | header {front back : List String} {name : String}
      (hbefore : Complete config.delimiter before [])
      (hrest : BeginsWith config.delimiter (front ++ name :: back) rest) (hfront : front.Nodup)
      (hname : name ∈ front) : Culprit config before rest (.duplicateColumn name)
  /-- The record does not fit under the header, and all before it do. -/
  | row {header : Record} {fitting : List Record} {fields : List String}
      (hbefore : Complete config.delimiter before (header :: fitting))
      (hrest : BeginsWith config.delimiter fields rest)
      (hfitting : ∀ earlier ∈ fitting,
        config.arity.Admits header.fields.length earlier.fields.length)
      (hmisfit : ¬ config.arity.Admits header.fields.length fields.length) :
      Culprit config before rest (.fieldCount header.fields.length fields.length)

variable {config : Config} {path text before rest reported : String} {line : Nat} {flaw : Flaw}

/-- There is a record to blame for every flaw of a text that has records. -/
theorem FirstFailure.exists_culprit
    (hfailure : FirstFailure config path text (.malformed reported line flaw))
    (hflaw : flaw ≠ .missingHeader) :
    ∃ before rest, text = before ++ rest ∧ Culprit config before rest flaw := by
  cases hfailure with
  | unterminated hdecode =>
    obtain ⟨before, rest, records, htext, hbefore, hrest, -⟩ := exists_unclosed hdecode
    exact ⟨before, rest, htext, .openRecord hbefore hrest⟩
  | headless _ => exact absurd rfl hflaw
  | @repeated header records _ _ _ hdecode hheader hfront hname =>
    obtain ⟨before, rest, htext, hbefore, hrest, -⟩ :=
      @startsOn_of_decode config.delimiter text [] records header hdecode
    exact ⟨before, rest, htext, .header hbefore (hheader ▸ hrest) hfront hname⟩
  | misfit _ _ hfitting hmisfit hstarts =>
    obtain ⟨before, rest, htext, hbefore, hrest, -⟩ := hstarts
    exact ⟨before, rest, htext, .row hbefore hrest hfitting hmisfit⟩

/-- The line that is reported for a flaw is that of the record to blame, but for a repeated name. -/
theorem FirstFailure.line_eq
    (hfailure : FirstFailure config path (before ++ rest) (.malformed reported line flaw))
    (hculprit : Culprit config before rest flaw) (hflaw : ∀ name, flaw ≠ .duplicateColumn name) :
    line = 1 + before.toList.count '\n' := by
  cases hculprit with
  | openRecord hbefore hrest =>
    cases hfailure with
    | unterminated hdecode =>
      rw [hbefore.decode_append, hrest.decode_eq] at hdecode
      cases hdecode
      rfl
  | header _ _ _ _ => exact absurd rfl (hflaw _)
  | @row header fitting fields hbefore hrest hfitting hmisfit =>
    generalize hfault : Fault.malformed reported line _ = fault at hfailure
    cases hfailure with
    | unterminated _ => cases hfault
    | headless _ => cases hfault
    | repeated _ _ _ _ => cases hfault
    | @misfit header' record fitting' others hdecode hnodup hfitting' hmisfit' _ =>
      obtain ⟨-, rfl, -⟩ := Fault.malformed.inj hfault
      rw [hbefore.decode_append] at hdecode
      rcases hrest.decode_cases with ⟨later, hlater⟩ | ⟨unterminated, hfails⟩
      · rw [hlater] at hdecode
        obtain ⟨rfl, hrecords⟩ := List.cons.inj (Except.ok.inj hdecode)
        let lower := Record.lower (before.toList.count '\n')
        have hsame : fitting ++ lower ⟨1, fields⟩ :: later.map lower =
            fitting' ++ record :: others := hrecords
        -- Of the same records the same one is the first that does not fit.
        have hfirst : readRows path config.arity header.fields.length
            (fitting ++ lower ⟨1, fields⟩ :: later.map lower) =
              .error (.malformed path (lower ⟨1, fields⟩).line
                (.fieldCount header.fields.length fields.length)) :=
          readRows_of_not_admits path (later.map lower) hfitting hmisfit
        have hsecond := readRows_of_not_admits path others hfitting' hmisfit'
        rw [hsame, hsecond] at hfirst
        exact (Fault.malformed.inj (Except.error.inj hfirst)).2.1
      · rw [hfails] at hdecode
        cases hdecode

/-- A repeated name is reported with the first line. This is the line of the header if nothing
stands before it. -/
theorem FirstFailure.line_of_duplicateColumn {name : String}
    (hfailure : FirstFailure config path text
      (.malformed reported line (.duplicateColumn name)))
    (hculprit : Culprit config before rest (.duplicateColumn name)) :
    line = 1 ∧ (line = 1 + before.toList.count '\n' ↔ before = "") := by
  obtain rfl : line = 1 := by
    cases hfailure
    rfl
  cases hculprit with
  | header hbefore _ _ _ =>
    refine ⟨rfl, ?_⟩
    rw [← hbefore.count_eq_zero_iff]
    omega

/-- The line of a malformed text. There is a record to blame for what is reported, and for an open
quote and a row that does not fit its line is the one reported, whatever stands before it. For a
repeated name it is so only if the header stands at the beginning of the text. -/
theorem line_of_malformed {disk : Disk} (input : ByteArray)
    (hread : disk.read path = .ok text.toUTF8)
    (hfails : ((load config path).run input disk).result = .error (.malformed reported line flaw))
    (hflaw : flaw ≠ .missingHeader) :
    (∃ before rest, text = before ++ rest ∧ Culprit config before rest flaw) ∧
      ∀ before rest, text = before ++ rest → Culprit config before rest flaw →
        ((∀ name, flaw ≠ .duplicateColumn name) → line = 1 + before.toList.count '\n') ∧
          ∀ name, flaw = .duplicateColumn name →
            line = 1 ∧ (line = 1 + before.toList.count '\n' ↔ before = "") := by
  rw [run_load_of_read config input hread] at hfails
  have hfailure := ofText_eq_error_iff.mp hfails
  refine ⟨hfailure.exists_culprit hflaw, ?_⟩
  rintro before rest rfl hculprit
  refine ⟨hfailure.line_eq hculprit, ?_⟩
  rintro name rfl
  exact hfailure.line_of_duplicateColumn hculprit

/-- A text with a blank line, a field that spans lines and a long row. -/
def longRowText : String :=
  "id,name\n\n1,\"x\ny\"\n2,Bob,b\n"

/-- A disk with this text in its only file. -/
def longRowDisk : Disk :=
  { entries := [(["t.csv"], .file longRowText.toUTF8)] }

/-- The long row is on the fifth line, behind four line feeds. -/
theorem line_of_malformed_longRow :
    let before := "id,name\n\n1,\"x\ny\"\n"
    longRowDisk.read "./t.csv" = .ok longRowText.toUTF8 ∧
      ((load {} "./t.csv").run .empty longRowDisk).result =
        .error (.malformed "./t.csv" 5 (.fieldCount 2 3)) ∧
      longRowText = before ++ "2,Bob,b\n" ∧
      Culprit {} before "2,Bob,b\n" (.fieldCount 2 3) ∧ 5 = 1 + before.toList.count '\n' := by
  intro before
  have hread : longRowDisk.read "./t.csv" = .ok longRowText.toUTF8 := rfl
  have hfails : ((load {} "./t.csv").run .empty longRowDisk).result =
      .error (.malformed "./t.csv" 5 (.fieldCount 2 3)) := by
    rw [run_load_of_read {} .empty hread]
    rfl
  have htext : longRowText = before ++ "2,Bob,b\n" := rfl
  have hbefore : Complete ',' "id,name\n\n1,\"x\ny\"\n"
      [⟨1, ["id", "name"]⟩, ⟨3, ["1", "x\ny"]⟩] := ⟨Or.inr rfl, rfl⟩
  have hrest : BeginsWith ',' ["2", "Bob", "b"] "2,Bob,b\n" := beginsWith_of_decode rfl
  have hculprit : Culprit {} before "2,Bob,b\n" (.fieldCount 2 3) :=
    @Culprit.row {} before _ _ _ _ hbefore hrest (by decide) (by decide)
  obtain ⟨-, hline⟩ := line_of_malformed .empty hread hfails Flaw.noConfusion
  exact ⟨hread, hfails, htext, hculprit, (hline _ _ htext hculprit).1 fun _ ↦ Flaw.noConfusion⟩

/-- A disk with a text that has blank lines before a header with a repeated name. -/
def lowHeaderDisk : Disk :=
  { entries := [(["t.csv"], .file "\n\nid,name,name\n1,a,b\n".toUTF8)] }

/-- The header is on the third line, but its repeated name is reported with the first one. -/
theorem duplicateColumn_lowHeader :
    lowHeaderDisk.read "./t.csv" = .ok ("\n\n" ++ "id,name,name\n1,a,b\n").toUTF8 ∧
      Culprit {} "\n\n" "id,name,name\n1,a,b\n" (.duplicateColumn "name") ∧
      1 + "\n\n".toList.count '\n' = 3 ∧
      ((load {} "./t.csv").run .empty lowHeaderDisk).result =
        .error (.malformed "./t.csv" 1 (.duplicateColumn "name")) := by
  have hread : lowHeaderDisk.read "./t.csv" =
      .ok ("\n\n" ++ "id,name,name\n1,a,b\n").toUTF8 := rfl
  have hrest : BeginsWith ',' (["id", "name"] ++ "name" :: []) "id,name,name\n1,a,b\n" :=
    beginsWith_of_decode rfl
  refine ⟨hread, .header ⟨Or.inr rfl, rfl⟩ hrest (by decide) (by decide), rfl, ?_⟩
  rw [run_load_of_read {} .empty hread]
  rfl

end Table

end FlatTables
