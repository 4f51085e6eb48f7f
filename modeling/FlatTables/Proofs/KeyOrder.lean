import FlatTables.Proofs.StableOrder

/-!
# The order of keys

What a field is ordered by can be said without its key. A text of one or more decimal digits, with
or without a sign, stands for an integer (`IntegerText`) and is ordered by it, however long it is.
Any other text is ordered by its code points, behind the integers, and empty and missing fields are
one place behind all of them (`StandsAt`). Every field has one place.

Keys compare as these places do, so they are in a linear order. Two keys compare as equal exactly if
they are the same key, which two fields have only if they are one text or stand for one integer
(`SortKey.compare_classify`).
-/

set_option autoImplicit false
set_option relaxedAutoImplicit false

namespace FlatTables

/-! ### The place of a field -/

/-- Where a field stands: integers first, by value, then other texts, by code points, and then the
empty and the missing ones. -/
inductive StandsAt : (field : Option String) → (place : WithTop (Int ⊕ₗ String)) → Prop
  | number {text : String} {number : Int} (htext : IntegerText text.toList number) :
      StandsAt (some text) ↑(toLex (Sum.inl number : Int ⊕ String))
  | text {text : String} (htext : text ≠ "")
      (hnumber : ∀ number, ¬ IntegerText text.toList number) :
      StandsAt (some text) ↑(toLex (Sum.inr text : Int ⊕ String))
  | empty : StandsAt (some "") ⊤
  | missing : StandsAt none ⊤

theorem fieldPlace_of_integerText {text : String} {number : Int}
    (htext : IntegerText text.toList number) :
    fieldPlace text = ↑(toLex (Sum.inl number : Int ⊕ String)) := by
  have hempty : text ≠ "" := by
    rintro rfl
    cases htext with
    | unsigned hdigits => exact hdigits.1 rfl
  rw [fieldPlace, if_neg hempty, integer?_eq_some_iff.mpr htext]

theorem fieldPlace_of_text {text : String} (htext : text ≠ "")
    (hnumber : ∀ number, ¬ IntegerText text.toList number) :
    fieldPlace text = ↑(toLex (Sum.inr text : Int ⊕ String)) := by
  have hnone : integer? text = none :=
    Option.eq_none_iff_forall_ne_some.mpr fun number h ↦ hnumber number (integer?_eq_some_iff.mp h)
  rw [fieldPlace, if_neg htext, hnone]

/-- Every field stands at one place. -/
theorem standsAt_iff {field : Option String} {place : WithTop (Int ⊕ₗ String)} :
    StandsAt field place ↔ place = fieldPlace (field.getD "") := by
  constructor
  · intro hstands
    cases hstands with
    | number htext => exact (fieldPlace_of_integerText htext).symm
    | text htext hnumber => exact (fieldPlace_of_text htext hnumber).symm
    | empty => rfl
    | missing => rfl
  · rintro rfl
    cases field with
    | none => exact .missing
    | some text =>
      rw [Option.getD_some]
      by_cases hempty : text = ""
      · subst hempty
        exact .empty
      · by_cases hnumber : ∃ number, IntegerText text.toList number
        · obtain ⟨number, htext⟩ := hnumber
          rw [fieldPlace_of_integerText htext]
          exact .number htext
        · have hnone : ∀ number, ¬ IntegerText text.toList number := not_exists.mp hnumber
          rw [fieldPlace_of_text hempty hnone]
          exact .text hempty hnone

/-- Two fields are at one place exactly if they are one text or stand for one integer. -/
theorem fieldPlace_eq_fieldPlace_iff {left right : String} :
    fieldPlace left = fieldPlace right ↔ left = right ∨
      ∃ number, IntegerText left.toList number ∧ IntegerText right.toList number := by
  constructor
  · intro hplace
    have hleft : StandsAt (some left) (fieldPlace left) := standsAt_iff.mpr rfl
    have hright : StandsAt (some right) (fieldPlace left) := standsAt_iff.mpr hplace
    generalize fieldPlace left = place at hleft hright
    cases hleft with
    | number hleftText =>
      cases hright with
      | number hrightText => exact Or.inr ⟨_, hleftText, hrightText⟩
    | text hleftText hleftNumber =>
      cases hright with
      | text hrightText hrightNumber => exact Or.inl rfl
    | empty =>
      cases hright with
      | empty => exact Or.inl rfl
  · rintro (rfl | ⟨number, hleft, hright⟩)
    · rfl
    · rw [fieldPlace_of_integerText hleft, fieldPlace_of_integerText hright]

/-! ### Keys -/

namespace SortKey

/-- Keys of fields at one place are the same key. -/
theorem PlacedAt.eq {left right : SortKey} {place : WithTop (Int ⊕ₗ String)}
    (hleft : PlacedAt left place) (hright : PlacedAt right place) : left = right := by
  cases hleft with
  | number hnormal =>
    generalize hplace : ((toLex (Sum.inl _ : Int ⊕ String) : Int ⊕ₗ String) :
      WithTop (Int ⊕ₗ String)) = place at hright
    cases hright with
    | number hother =>
      have hvalue := Sum.inl_injective (toLex.injective (WithTop.coe_injective hplace))
      rw [Numeral.eq_of_value_eq hnormal hother hvalue]
    | text other => exact absurd (toLex.injective (WithTop.coe_injective hplace)) Sum.inl_ne_inr
    | empty => exact absurd hplace WithTop.coe_ne_top
  | text content =>
    cases hright with
    | text other => rfl
  | empty =>
    cases hright with
    | empty => rfl

theorem compare_eq_cmp (left right : Option String) :
    (classify left).compare (classify right) =
      cmp (fieldPlace (left.getD "")) (fieldPlace (right.getD "")) :=
  ((placedAt_classify left).compares (placedAt_classify right)).inj (cmp_compares _ _)

theorem classify_eq_classify_iff (left right : Option String) :
    classify left = classify right ↔ fieldPlace (left.getD "") = fieldPlace (right.getD "") := by
  constructor
  · intro hkeys
    have hcompares := (placedAt_classify left).compares (placedAt_classify right)
    have hself := (placedAt_classify left).compares (placedAt_classify left)
    rw [← hkeys] at hcompares
    exact hcompares.eq_eq.mp (hself.eq_eq.mpr rfl)
  · intro hplace
    exact (placedAt_classify left).eq (hplace ▸ placedAt_classify right)

/-- Keys compare as the places of their fields, so their order is total and transitive. Keys that
compare as equal are the same key, and fields have the same key exactly if they are one text, a
missing one being empty, or stand for one integer. -/
theorem compare_classify :
    (∀ field, ∃! place, StandsAt field place) ∧
    (∀ left right leftPlace rightPlace, StandsAt left leftPlace → StandsAt right rightPlace →
      (classify left).compare (classify right) = cmp leftPlace rightPlace) ∧
    (∀ left right, (classify right).compare (classify left) =
      ((classify left).compare (classify right)).swap) ∧
    (∀ first second third, ((classify first).compare (classify second)).isLE →
      ((classify second).compare (classify third)).isLE →
        ((classify first).compare (classify third)).isLE) ∧
    (∀ left right, (classify left).compare (classify right) = .eq ↔
      classify left = classify right) ∧
    ∀ left right : Option String, classify left = classify right ↔
      left.getD "" = right.getD "" ∨ ∃ number,
        IntegerText (left.getD "").toList number ∧ IntegerText (right.getD "").toList number := by
  have hisLE (left right : Option String) : ((classify left).compare (classify right)).isLE ↔
      fieldPlace (left.getD "") ≤ fieldPlace (right.getD "") := by
    rw [compare_eq_cmp, ← Ordering.ne_gt_iff_isLE]
    exact (cmp_compares _ _).ne_gt
  refine ⟨?_, ?_, ?_, ?_, ?_, ?_⟩
  · intro field
    exact ⟨_, standsAt_iff.mpr rfl, fun place hplace ↦ standsAt_iff.mp hplace⟩
  · intro left right leftPlace rightPlace hleft hright
    rw [standsAt_iff.mp hleft, standsAt_iff.mp hright, compare_eq_cmp]
  · intro left right
    rw [compare_eq_cmp, compare_eq_cmp, cmp_swap]
  · intro first second third hfirst hsecond
    exact (hisLE _ _).mpr (le_trans ((hisLE _ _).mp hfirst) ((hisLE _ _).mp hsecond))
  · intro left right
    rw [compare_eq_cmp, classify_eq_classify_iff]
    exact cmp_eq_eq_iff _ _
  · intro left right
    rw [classify_eq_classify_iff, fieldPlace_eq_fieldPlace_iff]

/-- All spellings of zero have one key, and so have those of seven. A text that is no integer has a
key of its own, which stands behind the integers. -/
theorem compare_classify_spellings :
    (classify (some "-0")).compare (classify (some "000")) = .eq ∧
      classify (some "+7") = classify (some "007") ∧
      classify (some "4.2") ≠ classify (some "4.20") ∧
      (classify (some "99999999999999999999")).compare (classify (some "4.2")) = .lt ∧
      (classify (some "4.2")).compare (classify none) = .lt := by
  obtain ⟨-, hcompare, -, -, -, hsame⟩ := compare_classify
  have hminus : IntegerText "-0".toList 0 := @IntegerText.minus ['0'] (by simp [DecimalDigits])
  have hzeros : IntegerText "000".toList 0 := .unsigned (by simp [DecimalDigits])
  have hplus : IntegerText "+7".toList 7 := @IntegerText.plus ['7'] (by simp [DecimalDigits])
  have hseven : IntegerText "007".toList 7 := .unsigned (by simp [DecimalDigits])
  have hlong : IntegerText "99999999999999999999".toList 99999999999999999999 :=
    .unsigned (by simp [DecimalDigits])
  have hpoint : ∀ number, ¬ IntegerText "4.2".toList number := fun number htext ↦ by
    have hnone : integer? "4.2" = none := by decide
    rw [← integer?_eq_some_iff, hnone] at htext
    cases htext
  refine ⟨?_, ?_, ?_, ?_, ?_⟩
  · rw [hcompare _ _ _ _ (.number hminus) (.number hzeros), cmp_self_eq_eq]
  · exact (hsame _ _).mpr (Or.inr ⟨7, hplus, hseven⟩)
  · intro hkeys
    rcases (hsame _ _).mp hkeys with htext | ⟨number, htext, -⟩
    · exact absurd htext (by decide)
    · exact hpoint number htext
  · rw [hcompare _ _ _ _ (.number hlong) (.text (by decide) hpoint), cmp_eq_lt_iff]
    exact WithTop.coe_lt_coe.mpr (Sum.Lex.inl_lt_inr _ _)
  · rw [hcompare _ _ _ _ (.text (by decide) hpoint) .missing, cmp_eq_lt_iff]
    exact WithTop.coe_lt_top _

end SortKey

end FlatTables
