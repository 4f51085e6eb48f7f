import FlatTables.Proofs.JsonReading

/-!
# Integers in JSON text

An integer is written with its decimal digits, behind a minus if it is negative, and no digits but
those of zero begin with a zero (`integerPart_toDigits`). A number without point and exponent is
read as the integer that its digits stand for, as long as this has 64 bits: below zero with a sign,
above without one (`Number.read_false_eq`, `Number.read_true_eq`). The reader stops in front of
anything that ends a value.
-/

set_option autoImplicit false
set_option relaxedAutoImplicit false

namespace FlatTables.Json

/-! ### Digits -/

theorem head?_toDigits_ne {number : Nat} (hnumber : number ≠ 0) :
    (Nat.toDigits 10 number).head? ≠ some '0' := by
  induction number using Nat.strongRecOn with
  | _ number ih =>
    by_cases hsmall : number < 10
    · rw [Nat.toDigits_of_lt_base hsmall]
      interval_cases number <;> first | exact absurd rfl hnumber | decide
    · have hmore : number / 10 ≠ 0 := by omega
      rw [Nat.toDigits_of_base_le (by decide) (by omega),
        List.head?_append_of_ne_nil _ Nat.toDigits_ne_nil]
      exact ih (number / 10) (by omega) hmore

theorem integerPart_toDigits (number : Nat) : IntegerPart (Nat.toDigits 10 number) := by
  by_cases hnumber : number = 0
  · rw [hnumber]
    exact .zero
  · have hhead := head?_toDigits_ne hnumber
    have hdigits := decimalDigits_toDigits number
    generalize Nat.toDigits 10 number = digits at hhead hdigits
    cases digits with
    | nil => exact absurd rfl hdigits.1
    | cons c digits => exact .digits (fun hzero ↦ hhead (congrArg some hzero)) hdigits

theorem IntegerPart.decimalDigits {digits : List Char} (hdigits : IntegerPart digits) :
    DecimalDigits digits := by
  cases hdigits with
  | zero => exact ⟨List.cons_ne_nil _ _, List.forall_mem_singleton.mpr rfl⟩
  | digits _ hdigits => exact hdigits

namespace Number

theorem spanDigits_append {digits rest : List Char} (hdigits : ∀ c ∈ digits, c.isDigit = true)
    (hends : EndsValue rest) : spanDigits (digits ++ rest) = (digits, rest) := by
  induction digits with
  | nil =>
    obtain ⟨c, more, rfl, hc, -⟩ := Skip.exists_head_of_endsValue hends
    simp [spanDigits, hc]
  | cons c digits ih =>
    have hrest := ih fun d hd ↦ hdigits d (List.mem_cons_of_mem _ hd)
    rw [List.cons_append, spanDigits, if_pos (hdigits c List.mem_cons_self), hrest]

/-- Digits that fit are all absorbed. -/
theorem absorb_eq {limit significand : Nat} {digits : List Char}
    (hlimit : Nat.ofDigitChars 10 digits significand < limit) :
    absorb limit significand digits = (Nat.ofDigitChars 10 digits significand, 0) := by
  induction digits generalizing significand with
  | nil => rfl
  | cons c digits ih =>
    have hnext : significand * 10 + digit c = 10 * significand + (c.toNat - '0'.toNat) := by
      rw [digit, Nat.mul_comm]
    rw [Nat.ofDigitChars_cons, ← hnext] at hlimit ⊢
    rw [absorb, if_pos (lt_of_le_of_lt (le_ofDigitChars digits _) hlimit), ih hlimit]

/-- Behind the digits of an integer there is neither a fraction nor an exponent. -/
theorem readFraction_eq {negative : Bool} {significand : Nat} {rest : List Char}
    (hends : EndsValue rest)
    (hbound : negative = true → 0 < significand ∧ significand ≤ 2 ^ 63) :
    readFraction negative significand 0 rest =
      .ok (.integer (if negative then -significand else significand), rest) := by
  obtain ⟨c, more, rfl, -, hpoint, hlower, hupper⟩ := Skip.exists_head_of_endsValue hends
  unfold readFraction
  extract_lets signed
  split
  · exact absurd (List.cons.inj ‹_›).1 hpoint
  · exact absurd (List.cons.inj ‹_›).1 hlower
  · exact absurd (List.cons.inj ‹_›).1 hupper
  · rw [if_neg (lt_irrefl 0)]
    cases negative with
    | false => rfl
    | true =>
      obtain ⟨hsome, hfits⟩ := hbound rfl
      have hkept : ¬ (significand = 0 ∨ 1 <<< 63 < significand) := by
        rw [Nat.one_shiftLeft]
        omega
      simp only [Bool.not_true, Bool.false_eq_true, if_false, hkept, if_true]
      rfl

theorem read_eq {negative : Bool} {digits rest : List Char} (hdigits : IntegerPart digits)
    (hends : EndsValue rest) (hfits : Nat.ofDigitChars 10 digits 0 < 2 ^ 64)
    (hbound : negative = true →
      0 < Nat.ofDigitChars 10 digits 0 ∧ Nat.ofDigitChars 10 digits 0 ≤ 2 ^ 63) :
    read negative (digits ++ rest) =
      .ok (.integer (if negative then -(Nat.ofDigitChars 10 digits 0 : Nat)
        else (Nat.ofDigitChars 10 digits 0 : Nat)), rest) := by
  have hall := hdigits.decimalDigits
  have hspan := spanDigits_append hall.2 hends
  have habsorb : absorb (1 <<< 64) 0 digits = (Nat.ofDigitChars 10 digits 0, 0) :=
    absorb_eq (by rwa [Nat.one_shiftLeft])
  obtain ⟨c, others, rfl, hzero⟩ :
      ∃ c others, digits = c :: others ∧ ¬ (c = '0' ∧ (spanDigits (others ++ rest)).1 ≠ []) := by
    cases hdigits with
    | zero =>
      refine ⟨'0', [], rfl, fun hmore ↦ hmore.2 ?_⟩
      rw [spanDigits_append (by simp) hends]
    | @digits c others hzero _ => exact ⟨c, others, rfl, fun hmore ↦ hzero hmore.1⟩
  rw [List.cons_append] at hspan ⊢
  rw [read]
  simp only [hall.2 c List.mem_cons_self, Bool.not_true, Bool.false_eq_true, if_false, hspan,
    habsorb, if_neg hzero]
  exact readFraction_eq hends hbound

end Number

end FlatTables.Json
