import FlatTables.Proofs.Results
import FlatTables.Proofs.SplitTexts
import FlatTables.Query.ClauseText
import Mathlib.Data.List.Forall2

/-!
# The grammars of clause texts

Which texts are an assignment, a join or an ordering is said by three grammars, `AssignmentText`,
`JoinText` and `OrderText`. The words for a direction are taken with each letter in either case
(`Direction.NamedBy`), and this means ASCII letters only (`SameLetter`).

Each reader accepts the texts of its grammar and gives the clause that they tell
(`clauseTexts_exact`). So no text tells two clauses of one kind, any column can be ordered by if the
direction is written, and any value can be assigned. An ordering of an unknown direction is refused
for its direction, whether it has a column or not.
-/

set_option autoImplicit false
set_option relaxedAutoImplicit false

namespace FlatTables

/-! ### Letters in either case -/

/-- The same character, or one ASCII letter in both cases. -/
inductive SameLetter : Char → Char → Prop
  | same (c : Char) : SameLetter c c
  | upper {c d : Char} (hc : c.isUpper = true) (hd : d.toNat = c.toNat + 32) : SameLetter c d
  | lower {c d : Char} (hd : d.isUpper = true) (hc : c.toNat = d.toNat + 32) : SameLetter c d

theorem isUpper_iff_val {c : Char} : c.isUpper = true ↔ 'A'.val ≤ c.val ∧ c.val ≤ 'Z'.val :=
  decide_eq_true_iff

theorem isUpper_iff_toNat {c : Char} : c.isUpper = true ↔ 65 ≤ c.toNat ∧ c.toNat ≤ 90 :=
  isUpper_iff_val.trans (and_congr UInt32.le_iff_toNat_le UInt32.le_iff_toNat_le)

theorem toNat_toLower (c : Char) :
    c.toLower.toNat = if c.isUpper = true then c.toNat + 32 else c.toNat := by
  unfold Char.toLower
  by_cases hc : c.isUpper = true
  · have hrange := isUpper_iff_toNat.mp hc
    have hstep : ('a'.val - 'A'.val).toNat = 32 := rfl
    rw [dif_pos (isUpper_iff_val.mp hc), if_pos hc]
    change (c.val + ('a'.val - 'A'.val)).toNat = c.val.toNat + 32
    rw [← Char.toNat_val] at hrange
    rw [UInt32.toNat_add, hstep]
    omega
  · rw [dif_neg (mt isUpper_iff_val.mpr hc), if_neg hc]

theorem toLower_eq_toLower_iff {c d : Char} : c.toLower = d.toLower ↔ SameLetter c d := by
  rw [← Char.toNat_inj, toNat_toLower, toNat_toLower]
  constructor
  · intro hlower
    by_cases hc : c.isUpper = true
    · by_cases hd : d.isUpper = true
      · rw [if_pos hc, if_pos hd, Nat.add_right_cancel_iff, Char.toNat_inj] at hlower
        rw [hlower]
        exact .same d
      · rw [if_pos hc, if_neg hd] at hlower
        exact .upper hc hlower.symm
    · by_cases hd : d.isUpper = true
      · rw [if_neg hc, if_pos hd] at hlower
        exact .lower hd hlower
      · rw [if_neg hc, if_neg hd, Char.toNat_inj] at hlower
        rw [hlower]
        exact .same d
  · intro hsame
    simp only [isUpper_iff_toNat]
    cases hsame with
    | same => rfl
    | upper hc hd =>
      have hrange := isUpper_iff_toNat.mp hc
      rw [if_pos hrange, if_neg (by omega), hd]
    | lower hd hc =>
      have hrange := isUpper_iff_toNat.mp hd
      rw [if_pos hrange, if_neg (by omega), hc]

theorem map_toLower_eq_iff {left right : List Char} :
    left.map Char.toLower = right.map Char.toLower ↔ List.Forall₂ SameLetter left right := by
  rw [← List.forall₂_eq_eq_eq, List.forall₂_map_left_iff, List.forall₂_map_right_iff]
  simp only [toLower_eq_toLower_iff]

theorem Text.sameIgnoringCase_iff {left right : String} :
    sameIgnoringCase left right = true ↔ List.Forall₂ SameLetter left.toList right.toList := by
  rw [sameIgnoringCase, beq_iff_eq, map_toLower_eq_iff]

/-! ### Directions -/

namespace Direction

/-- The words for a direction. -/
def words : Direction → List String
  | .ascending => ["asc", "ascending"]
  | .descending => ["desc", "descending"]

/-- The word is one for the direction, with its letters in either case. -/
def NamedBy (direction : Direction) (word : String) : Prop :=
  ∃ name ∈ direction.words, List.Forall₂ SameLetter word.toList name.toList

variable {direction other : Direction} {word : String}

theorem any_words_iff :
    direction.words.any (Text.sameIgnoringCase word) = true ↔ direction.NamedBy word := by
  simp only [List.any_eq_true, Text.sameIgnoringCase_iff, NamedBy]

/-- No word is one for both directions. -/
theorem NamedBy.eq (hword : direction.NamedBy word) (hother : other.NamedBy word) :
    direction = other := by
  obtain ⟨name, hname, hletters⟩ := hword
  obtain ⟨second, hsecond, hothers⟩ := hother
  rw [← map_toLower_eq_iff] at hletters hothers
  have hsame : name.toList.map Char.toLower = second.toList.map Char.toLower :=
    hletters.symm.trans hothers
  have hdifferent : ∀ name ∈ direction.words, ∀ second ∈ other.words,
      name.toList.map Char.toLower = second.toList.map Char.toLower → direction = other := by
    cases direction <;> cases other <;> decide
  exact hdifferent name hname second hsecond hsame

/-- The words for directions are letters only. -/
theorem NamedBy.colon_notMem (hword : direction.NamedBy word) : ':' ∉ word.toList := by
  obtain ⟨name, hname, hletters⟩ := hword
  have hnames : ∀ name ∈ direction.words, ':' ∉ name.toList.map Char.toLower := by
    cases direction <;> decide
  rw [← map_toLower_eq_iff] at hletters
  exact fun hcolon ↦ hnames name hname (hletters ▸ List.mem_map_of_mem hcolon)

theorem ofText_cases (word : String) :
    (∃ direction : Direction, direction.NamedBy word ∧ ofText word = .ok direction) ∨
      (∀ direction : Direction, ¬ direction.NamedBy word) ∧
        ofText word = .error (.unknownDirection word) := by
  have hread : ofText word =
      if ascending.words.any (Text.sameIgnoringCase word) then .ok .ascending
      else if descending.words.any (Text.sameIgnoringCase word) then .ok .descending
      else .error (.unknownDirection word) := rfl
  by_cases hascending : ascending.words.any (Text.sameIgnoringCase word) = true
  · rw [if_pos hascending] at hread
    exact Or.inl ⟨.ascending, any_words_iff.mp hascending, hread⟩
  · rw [if_neg hascending] at hread
    by_cases hdescending : descending.words.any (Text.sameIgnoringCase word) = true
    · rw [if_pos hdescending] at hread
      exact Or.inl ⟨.descending, any_words_iff.mp hdescending, hread⟩
    · rw [if_neg hdescending] at hread
      refine Or.inr ⟨fun direction hword ↦ ?_, hread⟩
      cases direction with
      | ascending => exact hascending (any_words_iff.mpr hword)
      | descending => exact hdescending (any_words_iff.mpr hword)

theorem ofText_eq_ok_iff : ofText word = .ok direction ↔ direction.NamedBy word := by
  rcases ofText_cases word with ⟨found, hfound, hread⟩ | ⟨hnone, hread⟩
  · rw [hread, Except.ok.injEq]
    exact ⟨fun h ↦ h ▸ hfound, hfound.eq⟩
  · rw [hread]
    exact iff_of_false nofun (hnone direction)

end Direction

/-! ### Grammars -/

/-- A part of a clause that is not empty and in which no separator stands. -/
def ClausePart (separator : Char) (text : String) : Prop :=
  text ≠ "" ∧ separator ∉ text.toList

/-- The texts of an assignment: what stands behind the first `=` is the value. -/
inductive AssignmentText : String → String × String → Prop
  | assignment {column : String} (hcolumn : ClausePart '=' column) (value : String) :
      AssignmentText (column ++ "=" ++ value) (column, value)

/-- The texts of a join: three parts. -/
inductive JoinText : String → Join → Prop
  | join {column table otherColumn : String} (hcolumn : ClausePart ':' column)
      (htable : ClausePart ':' table) (hother : ClausePart ':' otherColumn) :
      JoinText (column ++ ":" ++ table ++ ":" ++ otherColumn) ⟨column, table, otherColumn⟩

/-- The texts of an ordering: a column, or any column with a direction. -/
inductive OrderText : String → OrderBy → Prop
  | bare {column : String} (hcolumn : ClausePart ':' column) :
      OrderText column ⟨column, .ascending⟩
  | directed {column word : String} {direction : Direction} (hcolumn : column ≠ "")
      (hfree : ':' ∉ word.toList) (hword : direction.NamedBy word) :
      OrderText (column ++ ":" ++ word) ⟨column, direction⟩

/-- Why a text is no ordering: it has no column, or its direction is unknown, which is reported even
if it has no column. -/
inductive OrderFlaw : String → ClauseError → Prop
  | nothing : OrderFlaw "" (.notOrderBy "")
  | noColumn {word : String} {direction : Direction} (hword : direction.NamedBy word) :
      OrderFlaw (":" ++ word) (.notOrderBy (":" ++ word))
  | unknownDirection (column : String) {word : String} (hfree : ':' ∉ word.toList)
      (hword : ∀ direction : Direction, ¬ direction.NamedBy word) :
      OrderFlaw (column ++ ":" ++ word) (.unknownDirection word)

/-! ### Readers -/

variable {text : String}

theorem assignmentOfText_eq_ok_iff {assignment : String × String} :
    assignmentOfText text = .ok assignment ↔ AssignmentText text assignment := by
  constructor
  · intro hread
    unfold assignmentOfText at hread
    cases hcut : Text.cutFirst? '=' text with
    | none =>
      rw [hcut] at hread
      cases hread
    | some parts =>
      rw [hcut] at hread
      obtain ⟨rfl, hfree⟩ := Text.cutFirst?_eq_some_iff.mp hcut
      by_cases hcolumn : parts.1 = ""
      · cases (if_pos hcolumn).symm.trans hread
      · obtain rfl := Except.ok.inj ((if_neg hcolumn).symm.trans hread)
        exact .assignment ⟨hcolumn, hfree⟩ parts.2
  · intro htext
    cases htext with
    | @assignment column hcolumn value =>
      have hcut : Text.cutFirst? '=' (column ++ "=" ++ value) = some (column, value) :=
        Text.cutFirst?_eq_some_iff.mpr ⟨rfl, hcolumn.2⟩
      rw [assignmentOfText, hcut]
      exact if_neg hcolumn.1

theorem eq_notAssignment_of_error {error : ClauseError}
    (hread : assignmentOfText text = .error error) : error = .notAssignment text := by
  unfold assignmentOfText at hread
  cases hcut : Text.cutFirst? '=' text with
  | none =>
    rw [hcut] at hread
    exact (Except.error.inj hread).symm
  | some parts =>
    rw [hcut] at hread
    by_cases hcolumn : parts.1 = ""
    · exact (Except.error.inj ((if_pos hcolumn).symm.trans hread)).symm
    · cases (if_neg hcolumn).symm.trans hread

theorem intercalate_colon_three (first second third : String) :
    ":".intercalate [first, second, third] = first ++ ":" ++ second ++ ":" ++ third := by
  simp [← String.toList_inj]

namespace Join

theorem ofText_eq_ok_iff {join : Join} : ofText text = .ok join ↔ JoinText text join := by
  constructor
  · intro hread
    unfold ofText at hread
    split at hread
    · next column table otherColumn hcut =>
      obtain ⟨-, hfree, rfl⟩ := Text.cut_eq_iff.mp hcut
      by_cases hempty : column = "" ∨ table = "" ∨ otherColumn = ""
      · rw [if_pos hempty] at hread
        cases hread
      · rw [if_neg hempty] at hread
        obtain rfl := Except.ok.inj hread
        rw [not_or, not_or] at hempty
        simp only [List.forall_mem_cons] at hfree
        have htext := JoinText.join ⟨hempty.1, hfree.1⟩ ⟨hempty.2.1, hfree.2.1⟩
          ⟨hempty.2.2, hfree.2.2.1⟩
        rwa [← intercalate_colon_three] at htext
    · cases hread
  · intro htext
    cases htext with
    | @join column table otherColumn hcolumn htable hother =>
      have hcut : Text.cut ':' (column ++ ":" ++ table ++ ":" ++ otherColumn) =
          [column, table, otherColumn] := by
        refine Text.cut_eq_iff.mpr ⟨List.cons_ne_nil _ _, ?_, intercalate_colon_three _ _ _⟩
        simp [hcolumn.2, htable.2, hother.2]
      have hsome : ¬ (column = "" ∨ table = "" ∨ otherColumn = "") := by
        simp [hcolumn.1, htable.1, hother.1]
      rw [ofText, hcut]
      exact if_neg hsome

theorem eq_notJoin_of_error {error : ClauseError} (hread : ofText text = .error error) :
    error = .notJoin text := by
  unfold ofText at hread
  split at hread
  · split at hread
    · exact (Except.error.inj hread).symm
    · cases hread
  · exact (Except.error.inj hread).symm

end Join

namespace OrderBy

/-- A text is a column, or has a direction behind the last colon. -/
theorem bare_or_directed (text : String) :
    ':' ∉ text.toList ∨ ∃ column word, text = column ++ ":" ++ word ∧ ':' ∉ word.toList := by
  cases hcut : Text.cutLast? ':' text with
  | none => exact Or.inl (Text.cutLast?_eq_none_iff.mp hcut)
  | some parts =>
    obtain ⟨hparts, hfree⟩ := Text.cutLast?_eq_some_iff.mp hcut
    exact Or.inr ⟨parts.1, parts.2, hparts, hfree⟩

theorem ofText_bare (hfree : ':' ∉ text.toList) :
    ofText text =
      if text = "" then .error (.notOrderBy text) else .ok ⟨text, .ascending⟩ := by
  rw [ofText, Text.cutLast?_eq_none_iff.mpr hfree]
  rfl

theorem ofText_directed {word : String} (column : String) (hfree : ':' ∉ word.toList) :
    ofText (column ++ ":" ++ word) = (Direction.ofText word).bind fun direction ↦
      if column = "" then .error (.notOrderBy (column ++ ":" ++ word))
      else .ok ⟨column, direction⟩ := by
  have hcut : Text.cutLast? ':' (column ++ ":" ++ word) = some (column, word) :=
    Text.cutLast?_eq_some_iff.mpr ⟨rfl, hfree⟩
  rw [ofText, hcut]
  cases hword : Direction.ofText word with
  | ok direction => simp only [hword]; rfl
  | error error => simp only [hword]; rfl

theorem ofText_eq_ok_iff {order : OrderBy} : ofText text = .ok order ↔ OrderText text order := by
  constructor
  · intro hread
    rcases bare_or_directed text with hfree | ⟨column, word, rfl, hfree⟩
    · rw [ofText_bare hfree] at hread
      by_cases hempty : text = ""
      · cases (if_pos hempty).symm.trans hread
      · obtain rfl := Except.ok.inj ((if_neg hempty).symm.trans hread)
        exact .bare ⟨hempty, hfree⟩
    · rw [ofText_directed column hfree] at hread
      obtain ⟨direction, hword, hread⟩ := exists_of_bind_eq_ok hread
      by_cases hempty : column = ""
      · cases (if_pos hempty).symm.trans hread
      · obtain rfl := Except.ok.inj ((if_neg hempty).symm.trans hread)
        exact .directed hempty hfree (Direction.ofText_eq_ok_iff.mp hword)
  · intro htext
    cases htext with
    | bare hcolumn => rw [ofText_bare hcolumn.2, if_neg hcolumn.1]
    | directed hcolumn hfree hword =>
      rw [ofText_directed _ hfree, Direction.ofText_eq_ok_iff.mpr hword]
      exact if_neg hcolumn

theorem ofText_eq_error_iff {error : ClauseError} :
    ofText text = .error error ↔ OrderFlaw text error := by
  constructor
  · intro hread
    rcases bare_or_directed text with hfree | ⟨column, word, rfl, hfree⟩
    · rw [ofText_bare hfree] at hread
      by_cases hempty : text = ""
      · obtain rfl := Except.error.inj ((if_pos hempty).symm.trans hread)
        rw [hempty]
        exact .nothing
      · cases (if_neg hempty).symm.trans hread
    · rw [ofText_directed column hfree] at hread
      rcases Direction.ofText_cases word with ⟨direction, hword, hdirection⟩ | ⟨hword, hdirection⟩
      · rw [hdirection] at hread
        by_cases hempty : column = ""
        · obtain rfl := Except.error.inj ((if_pos hempty).symm.trans hread)
          rw [hempty, String.empty_append]
          exact .noColumn hword
        · cases (if_neg hempty).symm.trans hread
      · rw [hdirection] at hread
        obtain rfl := Except.error.inj hread
        exact .unknownDirection column hfree hword
  · intro hflaw
    cases hflaw with
    | nothing => rfl
    | @noColumn word direction hword =>
      have hread := ofText_directed "" hword.colon_notMem
      rw [Direction.ofText_eq_ok_iff.mpr hword, String.empty_append] at hread
      exact hread
    | unknownDirection column hfree hword =>
      rcases Direction.ofText_cases _ with ⟨direction, hdirection, -⟩ | ⟨-, hdirection⟩
      · exact absurd hdirection (hword direction)
      · rw [ofText_directed column hfree, hdirection]
        rfl

end OrderBy

/-! ### Exactness -/

section Exact

variable {α : Type} {read : Except ClauseError α} {Tells : α → Prop}

theorem eq_of_exact (hexact : ∀ clause, read = .ok clause ↔ Tells clause) {clause other : α}
    (hclause : Tells clause) (hother : Tells other) : clause = other :=
  Except.ok.inj (((hexact clause).mpr hclause).symm.trans ((hexact other).mpr hother))

theorem eq_error_iff_of_exact (hexact : ∀ clause, read = .ok clause ↔ Tells clause)
    {flaw error : ClauseError} (hflaw : ∀ error, read = .error error → error = flaw) :
    read = .error error ↔ error = flaw ∧ ∀ clause, ¬ Tells clause := by
  constructor
  · intro hread
    refine ⟨hflaw error hread, fun clause hclause ↦ ?_⟩
    rw [(hexact clause).mpr hclause] at hread
    cases hread
  · rintro ⟨rfl, hnone⟩
    cases hread : read with
    | ok clause => exact absurd ((hexact clause).mp hread) (hnone clause)
    | error found => rw [hflaw found hread]

end Exact

/-- The readers accept the texts of their grammars and no others, so a text tells one clause of a
kind at most. A column that is not empty can be ordered by in either direction if this is written,
and any value can be assigned to a column without `=`. A text that is no clause is refused with the
error of its kind. -/
theorem clauseTexts_exact (text : String) :
    (∀ assignment,
      (assignmentOfText text = .ok assignment ↔ AssignmentText text assignment) ∧
      ∀ other, AssignmentText text assignment → AssignmentText text other →
        assignment = other) ∧
    (∀ join,
      (Join.ofText text = .ok join ↔ JoinText text join) ∧
      ∀ other, JoinText text join → JoinText text other → join = other) ∧
    (∀ order,
      (OrderBy.ofText text = .ok order ↔ OrderText text order) ∧
      ∀ other, OrderText text order → OrderText text other → order = other) ∧
    (∀ word (direction : Direction), text ≠ "" → direction.NamedBy word →
      OrderBy.ofText (text ++ ":" ++ word) = .ok ⟨text, direction⟩) ∧
    (∀ value, ClausePart '=' text → assignmentOfText (text ++ "=" ++ value) = .ok (text, value)) ∧
    ∀ error,
      (assignmentOfText text = .error error ↔
        error = .notAssignment text ∧ ∀ assignment, ¬ AssignmentText text assignment) ∧
      (Join.ofText text = .error error ↔
        error = .notJoin text ∧ ∀ join, ¬ JoinText text join) ∧
      (OrderBy.ofText text = .error error ↔ OrderFlaw text error) := by
  have hassignments (assignment : String × String) :
      assignmentOfText text = .ok assignment ↔ AssignmentText text assignment :=
    assignmentOfText_eq_ok_iff
  have hjoins (join : Join) : Join.ofText text = .ok join ↔ JoinText text join :=
    Join.ofText_eq_ok_iff
  have horders (order : OrderBy) : OrderBy.ofText text = .ok order ↔ OrderText text order :=
    OrderBy.ofText_eq_ok_iff
  refine ⟨fun assignment ↦ ⟨hassignments assignment, fun other ↦ eq_of_exact hassignments⟩,
    fun join ↦ ⟨hjoins join, fun other ↦ eq_of_exact hjoins⟩,
    fun order ↦ ⟨horders order, fun other ↦ eq_of_exact horders⟩, ?_, ?_, fun error ↦ ?_⟩
  · intro word direction hcolumn hword
    exact OrderBy.ofText_eq_ok_iff.mpr (.directed hcolumn hword.colon_notMem hword)
  · intro value hcolumn
    exact assignmentOfText_eq_ok_iff.mpr (.assignment hcolumn value)
  · exact ⟨eq_error_iff_of_exact hassignments fun _ ↦ eq_notAssignment_of_error,
      eq_error_iff_of_exact hjoins fun _ ↦ Join.eq_notJoin_of_error, OrderBy.ofText_eq_error_iff⟩

/-- A text that is a clause of every kind. Its column for an ordering has colons, its value for an
assignment has separators of both kinds, and behind it a direction can be written once more. -/
theorem clauseTexts_exact_ofAllKinds :
    let text := "a:b=c=:DeSC"
    assignmentOfText text = .ok ("a:b", "c=:DeSC") ∧
      Join.ofText text = .ok ⟨"a", "b=c=", "DeSC"⟩ ∧
      OrderBy.ofText text = .ok ⟨"a:b=c=", .descending⟩ ∧
      OrderBy.ofText (text ++ ":Ascending") = .ok ⟨text, .ascending⟩ := by
  intro text
  obtain ⟨hassignments, hjoins, horders, hdirected, -, -⟩ := clauseTexts_exact text
  have hascending : Direction.ascending.NamedBy "Ascending" :=
    Direction.any_words_iff.mp (by decide)
  have hdescending : Direction.descending.NamedBy "DeSC" :=
    Direction.any_words_iff.mp (by decide)
  have hassignment : AssignmentText ("a:b" ++ "=" ++ "c=:DeSC") ("a:b", "c=:DeSC") :=
    .assignment ⟨by decide, by decide⟩ "c=:DeSC"
  have hjoin : JoinText ("a" ++ ":" ++ "b=c=" ++ ":" ++ "DeSC") ⟨"a", "b=c=", "DeSC"⟩ :=
    .join ⟨by decide, by decide⟩ ⟨by decide, by decide⟩ ⟨by decide, by decide⟩
  have horder : OrderText ("a:b=c=" ++ ":" ++ "DeSC") ⟨"a:b=c=", .descending⟩ :=
    .directed (by decide) hdescending.colon_notMem hdescending
  exact ⟨(hassignments _).1.mpr hassignment, (hjoins _).1.mpr hjoin, (horders _).1.mpr horder,
    hdirected "Ascending" .ascending (by decide) hascending⟩

end FlatTables
