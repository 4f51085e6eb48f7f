import FlatTables.Proofs.NextIds
import FlatTables.Query.Answer

/-!
# Two readers of 64-bit integers

The integer of an id is that of a numeral, which is kept without leading zeros and refused by the
number of its digits. The integer of a field in an answer is made digit by digit, and refused as
soon as a digit leads out of the range. A digit never leads back into it, so both come to the
integer that the text stands for, kept only if it has 64 bits (`readInt64?_eq`,
`Numeral.parse?_bind_toInt64?`). So they agree on every text, and on those of 64-bit integers they
give the integer back (`FieldValue.readers_agree`).
-/

set_option autoImplicit false
set_option relaxedAutoImplicit false

namespace FlatTables

/-- A number below zero or not. -/
def withSign (negative : Bool) (number : Nat) : Int :=
  if negative then -number else number

theorem inInt64?_withSign_mono {negative : Bool} {number greater : Nat} (hle : number ≤ greater)
    (hout : inInt64? (withSign negative number) = none) :
    inInt64? (withSign negative greater) = none := by
  unfold inInt64? withSign minInt64 maxInt64 at *
  cases negative <;> grind

/-- One more digit makes the number that has it as its last digit, if this has 64 bits. -/
theorem appendDigit?_withSign {c : Char} (hc : c.isDigit = true) (negative : Bool) (number : Nat) :
    appendDigit? negative (withSign negative number) c =
      inInt64? (withSign negative (10 * number + (c.toNat - '0'.toNat))) := by
  rw [appendDigit?, if_pos hc, digitValue]
  cases negative <;> simp only [withSign, if_true, Bool.false_eq_true, if_false] <;> grind

/-- Digits behind a number make the number with these digits, if it has 64 bits and they are digits
indeed. -/
theorem foldlM_appendDigit? {negative : Bool} {digits : List Char} {number : Nat}
    (hkept : inInt64? (withSign negative number) = some (withSign negative number)) :
    digits.foldlM (appendDigit? negative) (withSign negative number) =
      if digits.all Char.isDigit then
        inInt64? (withSign negative (Nat.ofDigitChars 10 digits number))
      else none := by
  induction digits generalizing number with
  | nil => exact hkept.symm
  | cons c digits ih =>
    rw [List.foldlM_cons]
    by_cases hc : c.isDigit = true
    · rw [appendDigit?_withSign hc, Nat.ofDigitChars_cons, List.all_cons, hc, Bool.true_and]
      generalize 10 * number + (c.toNat - '0'.toNat) = next
      cases hnext : inInt64? (withSign negative next) with
      | none =>
        have hout := inInt64?_withSign_mono (le_ofDigitChars digits next) hnext
        rw [hout, ite_self]
        rfl
      | some kept =>
        obtain ⟨rfl, -⟩ := inInt64?_eq_some_iff.mp hnext
        exact ih hnext
    · have hall : ¬ (c :: digits).all Char.isDigit = true := fun hall ↦
        hc (List.all_eq_true.mp hall c List.mem_cons_self)
      rw [appendDigit?, if_neg hc, if_neg hall]
      rfl

/-- What is read digit by digit is the integer of the text, if it has 64 bits. -/
theorem readInt64?_eq (text : String) : readInt64? text = (integer? text).bind inInt64? := by
  unfold readInt64? integer?
  generalize splitSign text.toList = signed
  obtain ⟨negative, digits⟩ := signed
  dsimp only
  by_cases hdigits : digits = []
  · subst hdigits
    rfl
  · have hzero : (0 : Int) = withSign negative 0 := by cases negative <;> rfl
    have hkept : inInt64? (withSign negative 0) = some (withSign negative 0) := by
      cases negative <;> rfl
    rw [if_neg (mt List.isEmpty_iff.mp hdigits), hzero, foldlM_appendDigit? hkept, natural?]
    by_cases hall : digits.all Char.isDigit = true
    · rw [if_pos hall, if_pos ⟨hdigits, hall⟩]
      rfl
    · rw [if_neg hall, if_neg fun h ↦ hall h.2]
      rfl

namespace Numeral

/-- What is read as a numeral and converted is the integer of the text, if it has 64 bits. -/
theorem parse?_bind_toInt64? (text : String) :
    (parse? text).bind toInt64? = (integer? text).bind inInt64? := by
  rw [← map_value_parse?]
  cases hparse : parse? text with
  | none => rfl
  | some numeral => exact toInt64?_eq (normal_of_parse? hparse)

end Numeral

theorem integer?_bind_inInt64?_eq_some_iff {text : String} {number : Int} :
    (integer? text).bind inInt64? = some number ↔
      IntegerText text.toList number ∧ -2 ^ 63 ≤ number ∧ number ≤ 2 ^ 63 - 1 := by
  rw [Option.bind_eq_some_iff]
  simp only [integer?_eq_some_iff, inInt64?_eq_some_iff, minInt64, maxInt64]
  constructor
  · rintro ⟨value, htext, rfl, hleast, hgreatest⟩
    exact ⟨htext, by omega, by omega⟩
  · rintro ⟨htext, hleast, hgreatest⟩
    exact ⟨number, htext, rfl, by omega, by omega⟩

namespace FieldValue

/-- The integer of a field that an answer gives as text is that of the numeral in it. There is one
exactly if the text is an optional sign with decimal digits behind it, whatever zeros they begin
with, and stands for a 64-bit integer; then it is this integer. Every 64-bit integer is read back
from its decimal text. -/
theorem readers_agree (text : String) :
    (FieldValue.text text).integer? = (Numeral.parse? text).bind Numeral.toInt64? ∧
      (∀ number, (FieldValue.text text).integer? = some number ↔
        IntegerText text.toList number ∧ -2 ^ 63 ≤ number ∧ number ≤ 2 ^ 63 - 1) ∧
      ((FieldValue.text text).integer? = none ↔
        ∀ number, IntegerText text.toList number → number < -2 ^ 63 ∨ 2 ^ 63 - 1 < number) ∧
      ∀ number : Int, -2 ^ 63 ≤ number → number ≤ 2 ^ 63 - 1 →
        (FieldValue.text (toString number)).integer? = some number ∧
          (Numeral.parse? (toString number)).bind Numeral.toInt64? = some number := by
  have hread (text : String) :
      (FieldValue.text text).integer? = (FlatTables.integer? text).bind inInt64? :=
    readInt64?_eq text
  have hsome (text : String) (number : Int) : (FieldValue.text text).integer? = some number ↔
      IntegerText text.toList number ∧ -2 ^ 63 ≤ number ∧ number ≤ 2 ^ 63 - 1 := by
    rw [hread, integer?_bind_inInt64?_eq_some_iff]
  refine ⟨(hread text).trans (Numeral.parse?_bind_toInt64? text).symm, hsome text, ?_, ?_⟩
  · rw [Option.eq_none_iff_forall_ne_some]
    refine forall_congr' fun number ↦ ?_
    rw [ne_eq, hsome, not_and, not_and_or, not_le, not_le]
  · intro number hleast hgreatest
    have htext := integer?_eq_some_iff.mp (integer?_toString number)
    rw [hsome, Numeral.parse?_bind_toInt64?, integer?_bind_inInt64?_eq_some_iff]
    exact ⟨⟨htext, hleast, hgreatest⟩, htext, hleast, hgreatest⟩

/-- The least 64-bit integer, with zeros before its digits and as it is printed. The integer that
its digits stand for without the sign is not read. -/
theorem readers_agree_least :
    (FieldValue.text "-0009223372036854775808").integer? = some (-2 ^ 63) ∧
      (Numeral.parse? "-0009223372036854775808").bind Numeral.toInt64? = some (-2 ^ 63) ∧
      (FieldValue.text (toString (-2 ^ 63 : Int))).integer? = some (-2 ^ 63) ∧
      (FieldValue.text "0009223372036854775808").integer? = none := by
  obtain ⟨hagree, hsome, -, hprinted⟩ := readers_agree "-0009223372036854775808"
  have htext : IntegerText "-0009223372036854775808".toList (-2 ^ 63) :=
    .minus ⟨by decide, List.all_eq_true.mp rfl⟩
  have hread := (hsome (-2 ^ 63)).mpr ⟨htext, by decide, by decide⟩
  refine ⟨hread, hagree.symm.trans hread, (hprinted (-2 ^ 63) (by decide) (by decide)).1, ?_⟩
  exact (readers_agree "0009223372036854775808").1.trans rfl

end FieldValue

end FlatTables
