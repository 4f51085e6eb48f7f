import FlatTables.Text.Numeral
import Mathlib.Algebra.Order.Ring.Nat
import Mathlib.Data.Char
import Mathlib.Data.List.Lex
import Mathlib.Order.Compare
import Mathlib.Tactic.Ring

/-!
# The order of numerals

Numerals are compared by their signs, the lengths of their digit strings and their digits, and never
as numbers. This is the order of the integers that they stand for (`Numeral.compares`), as long as
the digit strings have no leading zeros and zero has no sign. What a text is read as is of this kind
(`Numeral.normal_of_parse?`), and stands for the integer of the text (`Numeral.map_value_parse?`).

A digit string stands for a number below the power of ten whose exponent is its length
(`ofDigitChars_lt`), and at least for the power before if its first digit is no zero
(`pow_le_ofDigitChars`). So the longer string stands for the greater number, and strings of one
length compare at the first digit in which they differ.
-/

set_option autoImplicit false
set_option relaxedAutoImplicit false

namespace FlatTables

/-! ### Digits -/

theorem digitValue_lt {c : Char} (hc : c.isDigit = true) : digitValue c < 10 := by
  obtain ⟨-, hhigh⟩ := Char.isDigit_iff_toNat.mp hc
  have hnine : '9'.toNat = '0'.toNat + 9 := rfl
  unfold digitValue
  omega

/-- Digits compare as characters as they do as numbers. -/
theorem digitValue_lt_digitValue_iff {c d : Char} (hc : c.isDigit = true) (hd : d.isDigit = true) :
    digitValue c < digitValue d ↔ c < d := by
  obtain ⟨hlow, -⟩ := Char.isDigit_iff_toNat.mp hc
  obtain ⟨hlow', -⟩ := Char.isDigit_iff_toNat.mp hd
  have hchars : c < d ↔ c.toNat < d.toNat := Iff.rfl
  rw [hchars]
  unfold digitValue
  omega

theorem digitValue_eq_digitValue_iff {c d : Char} (hc : c.isDigit = true)
    (hd : d.isDigit = true) : digitValue c = digitValue d ↔ c = d := by
  obtain ⟨hlow, -⟩ := Char.isDigit_iff_toNat.mp hc
  obtain ⟨hlow', -⟩ := Char.isDigit_iff_toNat.mp hd
  rw [← Char.toNat_inj]
  unfold digitValue
  omega

/-! ### Digit strings -/

theorem ofDigitChars_cons (c : Char) (digits : List Char) :
    Nat.ofDigitChars 10 (c :: digits) 0 =
      digitValue c * 10 ^ digits.length + Nat.ofDigitChars 10 digits 0 := by
  rw [Nat.ofDigitChars_cons, Nat.ofDigitChars_eq_ofDigitChars_zero, digitValue]
  ring

/-- Digits only make a number greater. -/
theorem le_ofDigitChars (digits : List Char) (number : Nat) :
    number ≤ Nat.ofDigitChars 10 digits number := by
  rw [Nat.ofDigitChars_eq_ofDigitChars_zero]
  exact Nat.le_add_right_of_le (Nat.le_mul_of_pos_left _ (Nat.pow_pos (by decide)))

theorem ofDigitChars_lt {digits : List Char} (hdigits : ∀ c ∈ digits, c.isDigit = true) :
    Nat.ofDigitChars 10 digits 0 < 10 ^ digits.length := by
  induction digits with
  | nil => simp
  | cons c digits ih =>
    have hrest := ih fun d hd ↦ hdigits d (List.mem_cons_of_mem _ hd)
    have hfirst : digitValue c + 1 ≤ 10 := digitValue_lt (hdigits c List.mem_cons_self)
    rw [ofDigitChars_cons, List.length_cons]
    calc digitValue c * 10 ^ digits.length + Nat.ofDigitChars 10 digits 0
        < digitValue c * 10 ^ digits.length + 10 ^ digits.length := by omega
      _ = (digitValue c + 1) * 10 ^ digits.length := by ring
      _ ≤ 10 * 10 ^ digits.length := Nat.mul_le_mul_right _ hfirst
      _ = 10 ^ (digits.length + 1) := by ring

/-- Decimal digits without leading zeros. -/
structure Significant (digits : List Char) : Prop where
  isDigit : ∀ c ∈ digits, c.isDigit = true
  head_ne_zero : digits.head? ≠ some '0'

theorem pow_le_ofDigitChars {c : Char} {digits : List Char} (hdigits : Significant (c :: digits)) :
    10 ^ digits.length ≤ Nat.ofDigitChars 10 (c :: digits) 0 := by
  obtain ⟨hlow, -⟩ := Char.isDigit_iff_toNat.mp (hdigits.isDigit c List.mem_cons_self)
  have hzero : c ≠ '0' := fun h ↦ hdigits.head_ne_zero (by rw [h]; rfl)
  have hne : c.toNat ≠ '0'.toNat := fun h ↦ hzero (Char.toNat_inj.mp h)
  have hfirst : 1 ≤ digitValue c := by
    unfold digitValue
    omega
  rw [ofDigitChars_cons]
  calc 10 ^ digits.length = 1 * 10 ^ digits.length := (Nat.one_mul _).symm
    _ ≤ digitValue c * 10 ^ digits.length := Nat.mul_le_mul_right _ hfirst
    _ ≤ digitValue c * 10 ^ digits.length + Nat.ofDigitChars 10 digits 0 := Nat.le_add_right _ _

/-- Of two digit strings without leading zeros the longer one stands for the greater number. -/
theorem ofDigitChars_lt_of_length_lt {left right : List Char} (hleft : Significant left)
    (hright : Significant right) (hlength : left.length < right.length) :
    Nat.ofDigitChars 10 left 0 < Nat.ofDigitChars 10 right 0 := by
  cases right with
  | nil => simp at hlength
  | cons c right =>
    have hbound : left.length ≤ right.length := Nat.le_of_lt_succ hlength
    calc Nat.ofDigitChars 10 left 0 < 10 ^ left.length := ofDigitChars_lt hleft.isDigit
      _ ≤ 10 ^ right.length := Nat.pow_le_pow_right (by omega) hbound
      _ ≤ Nat.ofDigitChars 10 (c :: right) 0 := pow_le_ofDigitChars hright

/-- Multiples with remainders compare by the factors first. -/
theorem mul_add_lt_mul_add_iff {first second base low high : Nat} (hlow : low < base)
    (hhigh : high < base) :
    first * base + low < second * base + high ↔
      first < second ∨ (first = second ∧ low < high) := by
  rcases Nat.lt_trichotomy first second with hlt | heq | hgt
  · have hstep : (first + 1) * base ≤ second * base := Nat.mul_le_mul_right _ hlt
    rw [Nat.succ_mul] at hstep
    constructor
    · exact fun _ ↦ Or.inl hlt
    · intro _
      omega
  · subst second
    constructor
    · intro h
      exact Or.inr ⟨rfl, by omega⟩
    · rintro (h | ⟨-, h⟩)
      · exact absurd h (Nat.lt_irrefl _)
      · omega
  · have hstep : (second + 1) * base ≤ first * base := Nat.mul_le_mul_right _ hgt
    rw [Nat.succ_mul] at hstep
    constructor
    · intro h
      omega
    · rintro (h | ⟨h, -⟩) <;> omega

/-- Digit strings of one length compare as texts as they do as numbers. -/
theorem ofDigitChars_lt_iff (left : List Char) :
    ∀ {right : List Char}, (∀ c ∈ left, c.isDigit = true) → (∀ c ∈ right, c.isDigit = true) →
      left.length = right.length →
        (Nat.ofDigitChars 10 left 0 < Nat.ofDigitChars 10 right 0 ↔ left < right) := by
  induction left with
  | nil =>
    intro right _ _ hlength
    rw [List.length_eq_zero_iff.mp hlength.symm]
    simp
  | cons c left ih =>
    intro right hleft hright hlength
    cases right with
    | nil => simp at hlength
    | cons d right =>
      have hwidth : left.length = right.length := Nat.succ.inj hlength
      have hc := hleft c List.mem_cons_self
      have hd := hright d List.mem_cons_self
      have hleftRest : ∀ e ∈ left, e.isDigit = true :=
        fun e he ↦ hleft e (List.mem_cons_of_mem _ he)
      have hrightRest : ∀ e ∈ right, e.isDigit = true :=
        fun e he ↦ hright e (List.mem_cons_of_mem _ he)
      have hleftBound := ofDigitChars_lt hleftRest
      rw [hwidth] at hleftBound
      rw [ofDigitChars_cons, ofDigitChars_cons, hwidth, List.cons_lt_cons_iff,
        mul_add_lt_mul_add_iff hleftBound (ofDigitChars_lt hrightRest),
        digitValue_lt_digitValue_iff hc hd, digitValue_eq_digitValue_iff hc hd,
        ih hleftRest hrightRest hwidth]

theorem ofDigitChars_dropWhile (digits : List Char) :
    Nat.ofDigitChars 10 (digits.dropWhile (· == '0')) 0 = Nat.ofDigitChars 10 digits 0 := by
  induction digits with
  | nil => rfl
  | cons c digits ih =>
    by_cases hzero : c = '0'
    · have hvalue : digitValue '0' = 0 := rfl
      rw [hzero, List.dropWhile_cons_of_pos (by simp), ih, ofDigitChars_cons, hvalue]
      omega
    · rw [List.dropWhile_cons_of_neg (by simpa using hzero)]

/-! ### Texts -/

/-- The number that a string of one or more decimal digits stands for. -/
def natural? (digits : List Char) : Option Nat :=
  if digits ≠ [] ∧ digits.all Char.isDigit then some (Nat.ofDigitChars 10 digits 0) else none

/-- The integer that a text of an optional sign and one or more decimal digits stands for. -/
def integer? (text : String) : Option Int :=
  let (negative, digits) := splitSign text.toList
  (natural? digits).map fun (number : Nat) ↦ if negative then -(number : Int) else number

/-- One or more decimal digits. -/
def DecimalDigits (text : List Char) : Prop :=
  text ≠ [] ∧ ∀ c ∈ text, c.isDigit = true

theorem decimalDigits_toDigits (number : Nat) : DecimalDigits (Nat.toDigits 10 number) :=
  ⟨Nat.toDigits_ne_nil, fun _ hc ↦ Nat.isDigit_of_mem_toDigits (by decide) (by decide) hc⟩

/-- The texts of an integer: decimal digits, with a sign before them or without one. -/
inductive IntegerText : (text : List Char) → (number : Int) → Prop
  | unsigned {digits : List Char} (hdigits : DecimalDigits digits) :
      IntegerText digits (Nat.ofDigitChars 10 digits 0)
  | plus {digits : List Char} (hdigits : DecimalDigits digits) :
      IntegerText ('+' :: digits) (Nat.ofDigitChars 10 digits 0)
  | minus {digits : List Char} (hdigits : DecimalDigits digits) :
      IntegerText ('-' :: digits) (-(Nat.ofDigitChars 10 digits 0 : Int))

theorem natural?_eq_some_iff {digits : List Char} {number : Nat} :
    natural? digits = some number ↔
      DecimalDigits digits ∧ Nat.ofDigitChars 10 digits 0 = number := by
  simp [natural?, DecimalDigits]

/-- Digits have no sign before them. -/
theorem splitSign_of_decimalDigits {digits : List Char} (hdigits : DecimalDigits digits) :
    splitSign digits = (false, digits) := by
  unfold splitSign
  split
  · exact absurd (hdigits.2 '-' List.mem_cons_self) (by decide)
  · exact absurd (hdigits.2 '+' List.mem_cons_self) (by decide)
  · rfl

/-- The texts of an integer are those that have its value. -/
theorem integer?_eq_some_iff {text : String} {number : Int} :
    integer? text = some number ↔ IntegerText text.toList number := by
  unfold integer?
  generalize text.toList = characters
  constructor
  · intro hvalue
    obtain ⟨magnitude, hnatural, rfl⟩ := Option.map_eq_some_iff.mp hvalue
    obtain ⟨hdigits, rfl⟩ := natural?_eq_some_iff.mp hnatural
    clear hvalue hnatural
    revert hdigits
    split
    · exact .minus
    · exact .plus
    · exact .unsigned
  · intro htext
    cases htext with
    | unsigned hdigits =>
      have hnatural := natural?_eq_some_iff.mpr ⟨hdigits, rfl⟩
      simp [splitSign_of_decimalDigits hdigits, hnatural]
    | plus hdigits =>
      have hnatural := natural?_eq_some_iff.mpr ⟨hdigits, rfl⟩
      simp [splitSign, hnatural]
    | minus hdigits =>
      have hnatural := natural?_eq_some_iff.mpr ⟨hdigits, rfl⟩
      simp [splitSign, hnatural]

namespace Numeral

/-- Digit strings without leading zeros compare as the numbers that they stand for. -/
theorem compareDigits_compares {left right : List Char} (hleft : Significant left)
    (hright : Significant right) :
    (compareDigits left right).Compares (Nat.ofDigitChars 10 left 0)
      (Nat.ofDigitChars 10 right 0) := by
  unfold compareDigits
  rcases Nat.lt_trichotomy left.length right.length with hlt | heq | hgt
  · have hlength : compare left.length right.length = .lt := Nat.compare_eq_lt.mpr hlt
    rw [hlength]
    exact ofDigitChars_lt_of_length_lt hleft hright hlt
  · have hlength : compare left.length right.length = .eq := Nat.compare_eq_eq.mpr heq
    rw [hlength]
    change (compareOfLessAndEq left right).Compares _ _
    unfold compareOfLessAndEq
    by_cases hless : left < right
    · rw [if_pos hless]
      exact (ofDigitChars_lt_iff left hleft.isDigit hright.isDigit heq).mpr hless
    · by_cases hsame : left = right
      · rw [if_neg hless, if_pos hsame, hsame]
        rfl
      · have hgreater : right < left := by
          rcases lt_trichotomy left right with h | h | h
          · exact absurd h hless
          · exact absurd h hsame
          · exact h
        rw [if_neg hless, if_neg hsame]
        exact (ofDigitChars_lt_iff right hright.isDigit hleft.isDigit heq.symm).mpr hgreater
  · have hlength : compare left.length right.length = .gt := Nat.compare_eq_gt.mpr hgt
    rw [hlength]
    exact ofDigitChars_lt_of_length_lt hright hleft hgt

/-! ### Numerals -/

/-- No leading zeros, and a sign only before digits. -/
structure Normal (numeral : Numeral) : Prop where
  significant : Significant numeral.digits
  ne_nil_of_negative : numeral.negative = true → numeral.digits ≠ []

theorem magnitude_eq (numeral : Numeral) :
    numeral.magnitude = Nat.ofDigitChars 10 numeral.digits 0 := by
  rw [magnitude, Nat.ofDigitChars_eq_foldl]
  simp only [Nat.mul_comm, digitValue]

/-- A text is read as a numeral without leading zeros, and as zero without a sign. -/
theorem normal_of_parse? {text : String} {numeral : Numeral}
    (hparse : parse? text = some numeral) : numeral.Normal := by
  unfold parse? at hparse
  generalize splitSign text.toList = signed at hparse
  obtain ⟨negative, digits⟩ := signed
  dsimp only at hparse
  by_cases hflaw : (digits.isEmpty || !digits.all Char.isDigit) = true
  · rw [if_pos hflaw] at hparse
    cases hparse
  · rw [if_neg hflaw] at hparse
    obtain rfl := Option.some.inj hparse
    have hdigits : ∀ c ∈ digits, c.isDigit = true := by
      simp only [Bool.or_eq_true, not_or, Bool.not_eq_true, Bool.not_eq_false'] at hflaw
      exact List.all_eq_true.mp hflaw.2
    refine ⟨⟨fun c hc ↦ hdigits c (List.dropWhile_sublist _ |>.mem hc), ?_⟩, ?_⟩
    · intro hhead
      have hfirst := List.head?_dropWhile_not (· == '0') digits
      rw [hhead] at hfirst
      simp at hfirst
    · intro hnegative
      simpa using (Bool.and_eq_true_iff.mp hnegative).2

theorem value_of_negative_eq_false {numeral : Numeral} (hnegative : numeral.negative = false) :
    numeral.value = Nat.ofDigitChars 10 numeral.digits 0 := by
  rw [value, hnegative, if_neg Bool.false_ne_true, magnitude_eq]

theorem value_of_negative_eq_true {numeral : Numeral} (hnegative : numeral.negative = true) :
    numeral.value = -(Nat.ofDigitChars 10 numeral.digits 0 : Int) := by
  rw [value, hnegative, if_pos rfl, magnitude_eq]

/-- The numeral that a text is read as has the value of the text, and a text that is read as none
has no value. -/
theorem map_value_parse? (text : String) : (parse? text).map value = integer? text := by
  unfold parse? integer?
  generalize splitSign text.toList = signed
  obtain ⟨negative, digits⟩ := signed
  have hflaw : (digits.isEmpty || !digits.all Char.isDigit) = true ↔
      ¬ (digits ≠ [] ∧ digits.all Char.isDigit = true) := by
    rw [Bool.or_eq_true, List.isEmpty_iff, Bool.not_eq_true', not_and_or, not_not,
      Bool.not_eq_true]
  dsimp only [natural?]
  by_cases hdigits : digits ≠ [] ∧ digits.all Char.isDigit = true
  · rw [if_neg (mt hflaw.mp (not_not_intro hdigits)), if_pos hdigits]
    have hdropped := ofDigitChars_dropWhile digits
    generalize digits.dropWhile (· == '0') = significant at hdropped
    rw [Option.map_some, Option.map_some, ← hdropped]
    cases negative with
    | false => rw [Bool.false_and, value_of_negative_eq_false rfl, if_neg Bool.false_ne_true]
    | true =>
      rw [Bool.true_and, if_pos rfl]
      cases significant with
      | nil => rfl
      | cons c significant => rw [value_of_negative_eq_true rfl]
  · rw [if_pos (hflaw.mpr hdigits), if_neg hdigits, Option.map_none, Option.map_none]

/-- The sign of a numeral is that of its value. -/
theorem negative_iff {numeral : Numeral} (hnormal : numeral.Normal) :
    numeral.negative = true ↔ numeral.value < 0 := by
  unfold value
  cases hnegative : numeral.negative with
  | false => simp
  | true =>
    have hpositive : 0 < numeral.magnitude := by
      rw [magnitude_eq]
      cases hdigits : numeral.digits with
      | nil => exact absurd hdigits (hnormal.ne_nil_of_negative hnegative)
      | cons c digits =>
        have hsignificant := hnormal.significant
        rw [hdigits] at hsignificant
        exact lt_of_lt_of_le (Nat.pow_pos (by omega)) (pow_le_ofDigitChars hsignificant)
    rw [if_pos rfl]
    simp
    omega

/-- Numerals compare as the integers that they stand for. -/
theorem compares {left right : Numeral} (hleft : left.Normal) (hright : right.Normal) :
    (left.compare right).Compares left.value right.value := by
  have hleftSign := negative_iff hleft
  have hrightSign := negative_iff hright
  unfold Numeral.compare
  by_cases hleftNegative : left.negative = true
  · by_cases hrightNegative : right.negative = true
    · have hdigits := compareDigits_compares hright.significant hleft.significant
      rw [hleftNegative, hrightNegative, value_of_negative_eq_true hleftNegative,
        value_of_negative_eq_true hrightNegative]
      change (compareDigits right.digits left.digits).Compares _ _
      cases hcompare : compareDigits right.digits left.digits <;>
        rw [hcompare] at hdigits <;> simp only [Ordering.Compares] at hdigits ⊢ <;> omega
    · have hlower := hleftSign.mp hleftNegative
      have hupper : ¬ right.value < 0 := fun h ↦ hrightNegative (hrightSign.mpr h)
      rw [hleftNegative, Bool.not_eq_true _ |>.mp hrightNegative]
      change left.value < right.value
      omega
  · rw [Bool.not_eq_true] at hleftNegative
    by_cases hrightNegative : right.negative = true
    · have hlower := hrightSign.mp hrightNegative
      have hupper : ¬ left.value < 0 := fun h ↦ by simp [hleftSign.mpr h] at hleftNegative
      rw [hleftNegative, hrightNegative]
      change right.value < left.value
      omega
    · rw [Bool.not_eq_true] at hrightNegative
      have hdigits := compareDigits_compares hleft.significant hright.significant
      rw [hleftNegative, hrightNegative, value_of_negative_eq_false hleftNegative,
        value_of_negative_eq_false hrightNegative]
      change (compareDigits left.digits right.digits).Compares _ _
      cases hcompare : compareDigits left.digits right.digits <;>
        rw [hcompare] at hdigits <;> simp only [Ordering.Compares] at hdigits ⊢ <;> omega

/-- Equal numbers have equal digit strings, as long as these have no leading zeros. -/
theorem digits_eq_of_ofDigitChars_eq {left right : List Char} (hleft : Significant left)
    (hright : Significant right)
    (hvalue : Nat.ofDigitChars 10 left 0 = Nat.ofDigitChars 10 right 0) : left = right := by
  rcases Nat.lt_trichotomy left.length right.length with hlt | heq | hgt
  · have hless := ofDigitChars_lt_of_length_lt hleft hright hlt
    omega
  · have hnotLess := mt (ofDigitChars_lt_iff left hleft.isDigit hright.isDigit heq).mpr
    have hnotGreater := mt (ofDigitChars_lt_iff right hright.isDigit hleft.isDigit heq.symm).mpr
    exact le_antisymm (not_lt.mp (hnotGreater (by omega))) (not_lt.mp (hnotLess (by omega)))
  · have hless := ofDigitChars_lt_of_length_lt hright hleft hgt
    omega

/-- An integer has one numeral. -/
theorem eq_of_value_eq {left right : Numeral} (hleft : left.Normal) (hright : right.Normal)
    (hvalue : left.value = right.value) : left = right := by
  have hsign : left.negative = right.negative := by
    rw [Bool.eq_iff_iff, negative_iff hleft, negative_iff hright, hvalue]
  have hdigits : Nat.ofDigitChars 10 left.digits 0 = Nat.ofDigitChars 10 right.digits 0 := by
    cases hnegative : left.negative with
    | false =>
      rw [value_of_negative_eq_false hnegative,
        value_of_negative_eq_false (hsign.symm.trans hnegative)] at hvalue
      omega
    | true =>
      rw [value_of_negative_eq_true hnegative,
        value_of_negative_eq_true (hsign.symm.trans hnegative)] at hvalue
      omega
  obtain ⟨leftNegative, leftDigits⟩ := left
  obtain ⟨rightNegative, rightDigits⟩ := right
  obtain rfl := hsign
  obtain rfl := digits_eq_of_ofDigitChars_eq hleft.significant hright.significant hdigits
  rfl

end Numeral

end FlatTables
