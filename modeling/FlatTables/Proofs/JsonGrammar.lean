import FlatTables.Json.Skip
import FlatTables.Proofs.NumeralOrder

/-!
# The grammar of JSON

Which texts are JSON values (`ValueText`), said by rules: three literals, numbers, strings, and
arrays and objects of values with blanks around every part. The rules for what stands between
brackets and commas (`Bracketed`, `FieldText`) say nothing about the values themselves, so they
serve for texts that have to stand for something as well.

A value that nobody wants is passed over up to its end and no further, however deep it is nested
(`skipValue_eq`). Behind a value stands a blank, a comma, a closing bracket or a closing brace
(`EndsValue`); a number would go on over anything else.
-/

set_option autoImplicit false
set_option relaxedAutoImplicit false

namespace FlatTables.Json

/-! ### Texts -/

/-- Blanks between the parts of a text. -/
def Blanks (text : List Char) : Prop :=
  ∀ c ∈ text, Skip.isBlank c = true

/-- What may stand between the quotes of a string. An escape by its code need not be a character. -/
inductive StringBody : List Char → Prop
  | nil : StringBody []
  | char {c : Char} {text : List Char} (hquote : c ≠ '"') (hbackslash : c ≠ '\\')
      (hcontrol : ¬ c < ' ') (hrest : StringBody text) : StringBody (c :: text)
  | letter {c : Char} {text : List Char} (hletter : (escapedChar? c).isSome = true)
      (hrest : StringBody text) : StringBody ('\\' :: c :: text)
  | code {digits text : List Char} (hlength : digits.length = 4)
      (hdigits : ∀ c ∈ digits, (hexDigit? c).isSome = true) (hrest : StringBody text) :
      StringBody ('\\' :: 'u' :: (digits ++ text))

/-- The digits of a number before the point. Only zero begins with a zero. -/
inductive IntegerPart : List Char → Prop
  | zero : IntegerPart ['0']
  | digits {c : Char} {rest : List Char} (hzero : c ≠ '0') (hdigits : DecimalDigits (c :: rest)) :
      IntegerPart (c :: rest)

/-- The point of a number and the digits behind it. -/
inductive FractionPart : List Char → Prop
  | absent : FractionPart []
  | digits {digits : List Char} (hdigits : DecimalDigits digits) : FractionPart ('.' :: digits)

/-- The exponent of a number, with a sign or without one. -/
inductive ExponentPart : List Char → Prop
  | absent : ExponentPart []
  | unsigned {letter : Char} {digits : List Char} (hletter : letter = 'e' ∨ letter = 'E')
      (hdigits : DecimalDigits digits) : ExponentPart (letter :: digits)
  | signed {letter sign : Char} {digits : List Char} (hletter : letter = 'e' ∨ letter = 'E')
      (hsign : sign = '+' ∨ sign = '-') (hdigits : DecimalDigits digits) :
      ExponentPart (letter :: sign :: digits)

/-- A number, with a minus before it or without one. -/
inductive NumberText : List Char → Prop
  | unsigned {integer fraction exponent : List Char} (hinteger : IntegerPart integer)
      (hfraction : FractionPart fraction) (hexponent : ExponentPart exponent) :
      NumberText (integer ++ (fraction ++ exponent))
  | minus {integer fraction exponent : List Char} (hinteger : IntegerPart integer)
      (hfraction : FractionPart fraction) (hexponent : ExponentPart exponent) :
      NumberText ('-' :: (integer ++ (fraction ++ exponent)))

section Lists

variable {α : Type} (item : α → List Char → Prop)

/-- Items parted by commas. -/
inductive Separated : (items : List α) → (text : List Char) → Prop
  | last {first : α} {text : List Char} (hfirst : item first text) : Separated [first] text
  | more {first : α} {items : List α} {text rest : List Char} (hfirst : item first text)
      (hrest : Separated items rest) : Separated (first :: items) (text ++ ',' :: rest)

/-- Items between brackets. -/
inductive Bracketed (opening closing : Char) : (items : List α) → (text : List Char) → Prop
  | empty {blanks : List Char} (hblanks : Blanks blanks) :
      Bracketed opening closing [] (opening :: (blanks ++ [closing]))
  | items {items : List α} {text : List Char} (hitems : Separated item items text) :
      Bracketed opening closing items (opening :: (text ++ [closing]))

end Lists

/-- An element of an array, with blanks around it. -/
inductive ElementText (element : List Char) : List Char → Prop
  | padded {before after : List Char} (hbefore : Blanks before) (hafter : Blanks after) :
      ElementText element (before ++ (element ++ after))

/-- A field of an object: what stands between the quotes of its name, and its value. -/
inductive FieldText (field : List Char × List Char) : List Char → Prop
  | padded {before afterName beforeValue after : List Char} (hbefore : Blanks before)
      (hafterName : Blanks afterName) (hbeforeValue : Blanks beforeValue) (hafter : Blanks after) :
      FieldText field (before ++ '"' :: (field.1 ++ '"' :: (afterName ++ ':' :: (beforeValue ++
        (field.2 ++ after)))))

/-- A string with its quotes. -/
def quotes (body : List Char) : List Char :=
  '"' :: (body ++ ['"'])

/-- The texts of JSON values. -/
inductive ValueText : List Char → Prop
  | null : ValueText ['n', 'u', 'l', 'l']
  | true : ValueText ['t', 'r', 'u', 'e']
  | false : ValueText ['f', 'a', 'l', 's', 'e']
  | number {text : List Char} (htext : NumberText text) : ValueText text
  | string {body : List Char} (hbody : StringBody body) : ValueText (quotes body)
  | array {elements : List (List Char)} {text : List Char}
      (htext : Bracketed ElementText '[' ']' elements text)
      (helements : ∀ element ∈ elements, ValueText element) : ValueText text
  | object {fields : List (List Char × List Char)} {text : List Char}
      (htext : Bracketed FieldText '\x7b' '\x7d' fields text)
      (hnames : ∀ field ∈ fields, StringBody field.1)
      (hvalues : ∀ field ∈ fields, ValueText field.2) : ValueText text

/-- What stands behind a value. -/
def EndsValue (text : List Char) : Prop :=
  ∃ c rest, text = c :: rest ∧ (Skip.isBlank c = true ∨ c = ',' ∨ c = ']' ∨ c = '\x7d')

theorem EndsValue.blanks_append {blanks text : List Char} (hblanks : Blanks blanks)
    (htext : EndsValue text) : EndsValue (blanks ++ text) := by
  cases blanks with
  | nil => exact htext
  | cons c blanks => exact ⟨c, _, rfl, Or.inl (hblanks c List.mem_cons_self)⟩

theorem endsValue_comma (rest : List Char) : EndsValue (',' :: rest) :=
  ⟨_, _, rfl, Or.inr (Or.inl rfl)⟩

theorem endsValue_bracket (rest : List Char) : EndsValue (']' :: rest) :=
  ⟨_, _, rfl, Or.inr (Or.inr (Or.inl rfl))⟩

theorem endsValue_brace (rest : List Char) : EndsValue ('\x7d' :: rest) :=
  ⟨_, _, rfl, Or.inr (Or.inr (Or.inr rfl))⟩

/-! ### Passing over a value -/

namespace Skip

variable {frames : List Frame} {rest : List Char}

theorem isBlank_eq_true_iff {c : Char} :
    isBlank c = true ↔ c = ' ' ∨ c = '\n' ∨ c = '\t' ∨ c = '\r' := by
  simp [isBlank, or_assoc]

theorem isBlank_of_isDigit {c : Char} (hc : c.isDigit = true) : isBlank c = false := by
  by_contra hblank
  rw [Bool.not_eq_false, isBlank_eq_true_iff] at hblank
  rcases hblank with rfl | rfl | rfl | rfl <;> simp at hc

theorem run_of_next {frames next : List Frame} {state nextState : State} {c : Char}
    (hstep : step frames state c rest = .next next nextState) :
    run frames state (c :: rest) = run next nextState rest := by
  rw [run, hstep]

/-- A state that every character of a text leads back to is the one behind the text. -/
theorem run_append_of_stays {state : State} {text : List Char}
    (hstays : ∀ c ∈ text, ∀ rest, step frames state c rest = .next frames state) :
    run frames state (text ++ rest) = run frames state rest := by
  induction text with
  | nil => rfl
  | cons c text ih =>
    rw [List.cons_append, run_of_next (hstays c List.mem_cons_self _)]
    exact ih fun d hd ↦ hstays d (List.mem_cons_of_mem _ hd)

/-- The states between the parts of a value, where blanks may stand. -/
inductive Between : List Frame → State → Prop
  | value (frames : List Frame) : Between frames .value
  | valueOrEnd (frames : List Frame) : Between frames .valueOrEnd
  | key (frames : List Frame) : Between frames .key
  | keyOrEnd (frames : List Frame) : Between frames .keyOrEnd
  | colon (frames : List Frame) : Between frames .colon
  | afterValue (frame : Frame) (frames : List Frame) : Between (frame :: frames) .afterValue

theorem run_blanks {state : State} {blanks : List Char} (hbetween : Between frames state)
    (hblanks : Blanks blanks) : run frames state (blanks ++ rest) = run frames state rest := by
  refine run_append_of_stays fun c hc rest ↦ ?_
  have hblank := hblanks c hc
  cases hbetween <;> simp [step, follow, hblank]

theorem run_literal (c : Char) (left : List Char) :
    run frames (.literal (c :: left)) (c :: (left ++ rest)) = run frames .afterValue rest := by
  induction left generalizing c with
  | nil =>
    have hstep : step frames (.literal [c]) c rest = .next frames .afterValue := by
      simp [step, closed]
    exact run_of_next hstep
  | cons d left ih =>
    have hstep : step frames (.literal (c :: d :: left)) c (d :: left ++ rest) =
        .next frames (.literal (d :: left)) := by simp [step]
    rw [run_of_next hstep]
    exact ih d

/-- The rest of an escape by its code, of whose four digits some may have been read. -/
theorem run_code {isKey : Bool} (digits : List Char) {done : Nat}
    (hlength : done + digits.length = 4) (hdone : done < 4)
    (hdigits : ∀ c ∈ digits, (hexDigit? c).isSome = true) :
    run frames (.string isKey (.hex done)) (digits ++ rest) =
      run frames (.string isKey .plain) rest := by
  induction digits generalizing done with
  | nil => simp at hlength; omega
  | cons c digits ih =>
    have hdigit : (hexDigit? c).isNone = false := by
      simpa [Option.isNone_iff_eq_none] using hdigits c List.mem_cons_self
    have hstep : step frames (.string isKey (.hex done)) c (digits ++ rest) =
        if done < 3 then .next frames (.string isKey (.hex (done + 1)))
        else .next frames (.string isKey .plain) := by
      change (if (hexDigit? c).isNone = true then _ else if done < 3 then _ else _) = _
      rw [hdigit, if_neg Bool.false_ne_true]
    rw [List.length_cons] at hlength
    by_cases hmore : done < 3
    · rw [if_pos hmore] at hstep
      rw [List.cons_append, run_of_next hstep,
        ih (by omega) (by omega) fun d hd ↦ hdigits d (List.mem_cons_of_mem _ hd)]
    · rw [if_neg hmore] at hstep
      have hnil : digits = [] := List.length_eq_zero_iff.mp (by omega)
      rw [List.cons_append, run_of_next hstep, hnil, List.nil_append]

/-- The rest of a string, up to its closing quote. -/
theorem run_stringBody {isKey : Bool} {body : List Char} (hbody : StringBody body) :
    run frames (.string isKey .plain) (body ++ '"' :: rest) =
      run frames (if isKey then .colon else .afterValue) rest := by
  induction hbody with
  | nil => cases isKey <;> rfl
  | @char c text hquote hbackslash hcontrol _ ih =>
    have hstep : step frames (.string isKey .plain) c (text ++ '"' :: rest) =
        .next frames (.string isKey .plain) := by
      change (if c = '"' then _ else if c = '\\' then _ else if c < ' ' then _ else _) = _
      rw [if_neg hquote, if_neg hbackslash, if_neg hcontrol]
    rw [List.cons_append, run_of_next hstep, ih]
  | @letter c text hletter _ ih =>
    have hcode : c ≠ 'u' := by
      rintro rfl
      simp [escapedChar?] at hletter
    have hstep : step frames (.string isKey .escape) c (text ++ '"' :: rest) =
        .next frames (.string isKey .plain) := by
      change (if c = 'u' then _ else if (escapedChar? c).isSome = true then _ else _) = _
      rw [if_neg hcode, if_pos hletter]
    rw [List.cons_append, run_of_next (by rfl), List.cons_append, run_of_next hstep, ih]
  | @code digits text hlength hdigits _ ih =>
    have hlast : 0 + digits.length = 4 := by omega
    rw [List.cons_append, run_of_next (by rfl), List.cons_append, run_of_next (by rfl),
      List.append_assoc, run_code digits hlast (by omega) hdigits, ih]

/-! ### Numbers -/

/-- What ends a value begins with no character of a number. -/
theorem exists_head_of_endsValue (hends : EndsValue rest) :
    ∃ c more, rest = c :: more ∧ c.isDigit = false ∧ c ≠ '.' ∧ c ≠ 'e' ∧ c ≠ 'E' := by
  obtain ⟨c, more, rfl, hc⟩ := hends
  refine ⟨c, more, rfl, ?_⟩
  rw [isBlank_eq_true_iff] at hc
  rcases hc with (rfl | rfl | rfl | rfl) | rfl | rfl | rfl <;> decide

/-- What ends a value is no part of a number. -/
theorem follow_of_endsValue {digits : Digits} {c : Char} {more : List Char}
    (hdigits : digits = .zero ∨ digits = .integer ∨ digits = .fraction ∨ digits = .power)
    (hends : EndsValue (c :: more)) : number frames digits c = follow frames c := by
  obtain ⟨c, more, hcons, hother⟩ := exists_head_of_endsValue hends
  obtain ⟨rfl, rfl⟩ := List.cons_eq_cons.mp hcons
  rcases hdigits with rfl | rfl | rfl | rfl <;> simp [number, hother]

theorem run_number_of_endsValue {digits : Digits}
    (hdigits : digits = .zero ∨ digits = .integer ∨ digits = .fraction ∨ digits = .power)
    (hends : EndsValue rest) : run frames (.number digits) rest = run frames .afterValue rest := by
  obtain ⟨c, more, rfl, hc⟩ := hends
  have hstep : step frames (.number digits) c more = step frames .afterValue c more :=
    follow_of_endsValue hdigits ⟨c, more, rfl, hc⟩
  rw [run, run, hstep]

/-- The first digit leads from one state to another, and the others keep that one. -/
theorem run_decimalDigits {before after : Digits} {text : List Char}
    (hfirst : ∀ c, c.isDigit = true → number frames before c = .next frames (.number after))
    (hothers : ∀ c, c.isDigit = true → number frames after c = .next frames (.number after))
    (htext : DecimalDigits text) :
    run frames (.number before) (text ++ rest) = run frames (.number after) rest := by
  obtain ⟨hne, hdigits⟩ := htext
  cases text with
  | nil => exact absurd rfl hne
  | cons c text =>
    have hstep : step frames (.number before) c (text ++ rest) = .next frames (.number after) :=
      hfirst c (hdigits c List.mem_cons_self)
    rw [List.cons_append, run_of_next hstep]
    exact run_append_of_stays fun d hd _ ↦ hothers d (hdigits d (List.mem_cons_of_mem _ hd))

theorem run_exponentPart {digits : Digits} {exponent : List Char}
    (hdigits : digits = .zero ∨ digits = .integer ∨ digits = .fraction)
    (hexponent : ExponentPart exponent) (hends : EndsValue rest) :
    run frames (.number digits) (exponent ++ rest) = run frames .afterValue rest := by
  have hpower (c : Char) (hc : c.isDigit = true) :
      number frames .power c = .next frames (.number .power) := by simp [number, hc]
  have hletter (c : Char) (hc : c = 'e' ∨ c = 'E') (more : List Char) :
      step frames (.number digits) c more = .next frames (.number .exponent) := by
    rcases hdigits with rfl | rfl | rfl <;> rcases hc with rfl | rfl <;> rfl
  cases hexponent with
  | absent =>
    refine run_number_of_endsValue ?_ hends
    rcases hdigits with h | h | h <;> simp [h]
  | @unsigned letter text hexponent htext =>
    have hfirst (c : Char) (hc : c.isDigit = true) :
        number frames .exponent c = .next frames (.number .power) := by
      have hsign : ¬ (c = '+' ∨ c = '-') := by rintro (rfl | rfl) <;> simp at hc
      simp [number, hc, hsign]
    rw [List.cons_append, run_of_next (hletter letter hexponent _),
      run_decimalDigits hfirst hpower htext, run_number_of_endsValue (by simp) hends]
  | @signed letter sign text hexponent hsign htext =>
    have hfirst (c : Char) (hc : c.isDigit = true) :
        number frames .exponentSign c = .next frames (.number .power) := by simp [number, hc]
    have hstep : step frames (.number .exponent) sign (text ++ rest) =
        .next frames (.number .exponentSign) := by simp [step, number, hsign]
    rw [List.cons_append, run_of_next (hletter letter hexponent _), List.cons_append,
      run_of_next hstep, run_decimalDigits hfirst hpower htext,
      run_number_of_endsValue (by simp) hends]

theorem run_fractionPart {digits : Digits} {fraction exponent : List Char}
    (hdigits : digits = .zero ∨ digits = .integer) (hfraction : FractionPart fraction)
    (hexponent : ExponentPart exponent) (hends : EndsValue rest) :
    run frames (.number digits) (fraction ++ exponent ++ rest) = run frames .afterValue rest := by
  cases hfraction with
  | absent =>
    refine run_exponentPart ?_ hexponent hends
    rcases hdigits with h | h <;> simp [h]
  | digits htext =>
    have hpoint (more : List Char) :
        step frames (.number digits) '.' more = .next frames (.number .point) := by
      rcases hdigits with rfl | rfl <;> rfl
    have hfirst (c : Char) (hc : c.isDigit = true) :
        number frames .point c = .next frames (.number .fraction) := by simp [number, hc]
    have hothers (c : Char) (hc : c.isDigit = true) :
        number frames .fraction c = .next frames (.number .fraction) := by simp [number, hc]
    rw [List.append_assoc, List.cons_append, run_of_next (hpoint _),
      run_decimalDigits hfirst hothers htext, run_exponentPart (by simp) hexponent hends]

/-- The digits before the point, at the beginning of a number or behind its minus. -/
theorem run_integerPart (frames : List Frame) {integer : List Char}
    (hinteger : IntegerPart integer) :
    ∃ digits : Digits, (digits = .zero ∨ digits = .integer) ∧ ∀ rest,
      run frames .value (integer ++ rest) = run frames (.number digits) rest ∧
        run frames (.number .sign) (integer ++ rest) = run frames (.number digits) rest := by
  cases hinteger with
  | zero => exact ⟨.zero, Or.inl rfl, fun rest ↦ ⟨rfl, rfl⟩⟩
  | @digits c text hzero hdigits =>
    have hc : c.isDigit = true := hdigits.2 c List.mem_cons_self
    have hopen : openValue frames c = .next frames (.number .integer) := by
      unfold openValue
      split <;> simp_all
    have hblank : isBlank c = false := isBlank_of_isDigit hc
    have hvalue (rest : List Char) :
        step frames .value c rest = .next frames (.number .integer) := by
      simp [step, hblank, hopen]
    have hsign (rest : List Char) :
        step frames (.number .sign) c rest = .next frames (.number .integer) := by
      simp [step, number, hzero, hc]
    have hrest (rest : List Char) : run frames (.number .integer) (text ++ rest) =
        run frames (.number .integer) rest := by
      refine run_append_of_stays fun d hd _ ↦ ?_
      simp [step, number, hdigits.2 d (List.mem_cons_of_mem _ hd)]
    refine ⟨.integer, Or.inr rfl, fun rest ↦ ⟨?_, ?_⟩⟩
    · rw [List.cons_append, run_of_next (hvalue _), hrest]
    · rw [List.cons_append, run_of_next (hsign _), hrest]

theorem run_numberText {text : List Char} (htext : NumberText text) (hends : EndsValue rest) :
    run frames .value (text ++ rest) = run frames .afterValue rest := by
  cases htext with
  | unsigned hinteger hfraction hexponent =>
    obtain ⟨digits, hdigits, hrun⟩ := run_integerPart frames hinteger
    rw [List.append_assoc, (hrun _).1, run_fractionPart hdigits hfraction hexponent hends]
  | minus hinteger hfraction hexponent =>
    obtain ⟨digits, hdigits, hrun⟩ := run_integerPart frames hinteger
    rw [List.cons_append, run_of_next (by rfl), List.append_assoc, (hrun _).2,
      run_fractionPart hdigits hfraction hexponent hends]

/-! ### Values -/

/-- Where a value begins, it is passed over up to what ends it. -/
def Passes (text : List Char) : Prop :=
  ∀ (frames : List Frame) (rest : List Char), EndsValue rest →
    run frames .value (text ++ rest) = run frames .afterValue rest

theorem exists_head_of_numberText {text : List Char} (htext : NumberText text) :
    ∃ c rest, text = c :: rest ∧ (c = '-' ∨ c.isDigit = true) := by
  cases htext with
  | unsigned hinteger _ _ =>
    cases hinteger with
    | zero => exact ⟨_, _, rfl, Or.inr rfl⟩
    | digits _ hdigits => exact ⟨_, _, rfl, Or.inr (hdigits.2 _ List.mem_cons_self)⟩
  | minus _ _ _ => exact ⟨_, _, rfl, Or.inl rfl⟩

/-- No value begins with a blank, nor with the bracket that closes an array. -/
theorem exists_head_of_valueText {text : List Char} (htext : ValueText text) :
    ∃ c rest, text = c :: rest ∧ isBlank c = false ∧ c ≠ ']' := by
  cases htext with
  | null => exact ⟨_, _, rfl, by decide⟩
  | true => exact ⟨_, _, rfl, by decide⟩
  | false => exact ⟨_, _, rfl, by decide⟩
  | number hnumber =>
    obtain ⟨c, rest, rfl, hc⟩ := exists_head_of_numberText hnumber
    refine ⟨c, rest, rfl, ?_⟩
    rcases hc with rfl | hc
    · decide
    · exact ⟨isBlank_of_isDigit hc, by rintro rfl; simp at hc⟩
  | string _ => exact ⟨_, _, rfl, by decide⟩
  | array htext _ => cases htext <;> exact ⟨_, _, rfl, by decide⟩
  | object htext _ _ => cases htext <;> exact ⟨_, _, rfl, by decide⟩

/-- The first element of an array begins as any other value does. -/
theorem run_valueOrEnd {text : List Char} (htext : ValueText text) :
    run frames .valueOrEnd (text ++ rest) = run frames .value (text ++ rest) := by
  obtain ⟨c, more, rfl, hblank, hbracket⟩ := exists_head_of_valueText htext
  have hstep : step frames .valueOrEnd c (more ++ rest) = step frames .value c (more ++ rest) := by
    simp [step, hblank, hbracket]
  rw [List.cons_append, run, run, hstep]

theorem run_elementText {element text : List Char} {state : State}
    (hstate : state = .value ∨ state = .valueOrEnd) (helement : ValueText element)
    (hpasses : Passes element) (htext : ElementText element text) (hends : EndsValue rest) :
    run (.array :: frames) state (text ++ rest) = run (.array :: frames) .afterValue rest := by
  cases htext with
  | @padded before after hbefore hafter =>
    have hbetween : Between (.array :: frames) state := by
      rcases hstate with rfl | rfl
      · exact .value _
      · exact .valueOrEnd _
    have hvalue : run (.array :: frames) state (element ++ (after ++ rest)) =
        run (.array :: frames) .value (element ++ (after ++ rest)) := by
      rcases hstate with rfl | rfl
      · rfl
      · exact run_valueOrEnd helement
    rw [List.append_assoc, run_blanks hbetween hbefore, List.append_assoc, hvalue,
      hpasses _ _ (hends.blanks_append hafter), run_blanks (.afterValue _ _) hafter]

theorem run_elements {elements : List (List Char)} {text : List Char}
    (htext : Separated ElementText elements text)
    (helements : ∀ element ∈ elements, ValueText element ∧ Passes element) {state : State}
    (hstate : state = .value ∨ state = .valueOrEnd) :
    run (.array :: frames) state (text ++ ']' :: rest) = run frames .afterValue rest := by
  induction htext generalizing state with
  | @last element text htext =>
    obtain ⟨hvalue, hpasses⟩ := helements element List.mem_cons_self
    rw [run_elementText hstate hvalue hpasses htext (endsValue_bracket rest)]
    exact run_of_next rfl
  | @more element elements text others htext _ ih =>
    obtain ⟨hvalue, hpasses⟩ := helements element List.mem_cons_self
    rw [List.append_assoc, List.cons_append,
      run_elementText hstate hvalue hpasses htext (endsValue_comma _), run_of_next (by rfl)]
    exact ih (fun other hother ↦ helements other (List.mem_cons_of_mem _ hother)) (Or.inl rfl)

theorem run_fieldText {field : List Char × List Char} {text : List Char} {state : State}
    (hstate : state = .key ∨ state = .keyOrEnd) (hname : StringBody field.1)
    (hpasses : Passes field.2) (htext : FieldText field text) (hends : EndsValue rest) :
    run (.object :: frames) state (text ++ rest) = run (.object :: frames) .afterValue rest := by
  cases htext with
  | @padded before afterName beforeValue after hbefore hafterName hbeforeValue hafter =>
    have hbetween : Between (.object :: frames) state := by
      rcases hstate with rfl | rfl
      · exact .key _
      · exact .keyOrEnd _
    have hquote (more : List Char) : step (.object :: frames) state '"' more =
        .next (.object :: frames) (.string true .plain) := by
      rcases hstate with rfl | rfl <;> rfl
    simp only [List.append_assoc, List.cons_append]
    rw [run_blanks hbetween hbefore, run_of_next (hquote _), run_stringBody hname, if_pos rfl,
      run_blanks (.colon _) hafterName, run_of_next (by rfl), run_blanks (.value _) hbeforeValue,
      hpasses _ _ (hends.blanks_append hafter), run_blanks (.afterValue _ _) hafter]

theorem run_fields {fields : List (List Char × List Char)} {text : List Char}
    (htext : Separated FieldText fields text)
    (hfields : ∀ field ∈ fields, StringBody field.1 ∧ Passes field.2) {state : State}
    (hstate : state = .key ∨ state = .keyOrEnd) :
    run (.object :: frames) state (text ++ '\x7d' :: rest) = run frames .afterValue rest := by
  induction htext generalizing state with
  | @last field text htext =>
    obtain ⟨hname, hpasses⟩ := hfields field List.mem_cons_self
    rw [run_fieldText hstate hname hpasses htext (endsValue_brace rest)]
    exact run_of_next rfl
  | @more field fields text others htext _ ih =>
    obtain ⟨hname, hpasses⟩ := hfields field List.mem_cons_self
    rw [List.append_assoc, List.cons_append,
      run_fieldText hstate hname hpasses htext (endsValue_comma _), run_of_next (by rfl)]
    exact ih (fun other hother ↦ hfields other (List.mem_cons_of_mem _ hother)) (Or.inl rfl)

/-- Every value is passed over, by induction on the value: what an array or an object holds has been
passed over before. -/
theorem passes_of_valueText {text : List Char} (htext : ValueText text) : Passes text := by
  induction htext with
  | null =>
    intro frames rest _
    exact (run_of_next rfl).trans (run_literal 'u' ['l', 'l'])
  | true =>
    intro frames rest _
    exact (run_of_next rfl).trans (run_literal 'r' ['u', 'e'])
  | false =>
    intro frames rest _
    exact (run_of_next rfl).trans (run_literal 'a' ['l', 's', 'e'])
  | number hnumber =>
    intro frames rest hends
    exact run_numberText hnumber hends
  | string hbody =>
    intro frames rest _
    rw [quotes, List.cons_append, List.append_assoc, run_of_next (by rfl)]
    exact run_stringBody hbody
  | array htext helements ih =>
    intro frames rest _
    cases htext with
    | empty hblanks =>
      rw [List.cons_append, List.append_assoc, run_of_next (by rfl),
        run_blanks (.valueOrEnd _) hblanks]
      exact run_of_next rfl
    | items hitems =>
      rw [List.cons_append, List.append_assoc, run_of_next (by rfl)]
      exact run_elements hitems (fun element h ↦ ⟨helements element h, ih element h⟩) (Or.inr rfl)
  | object htext hnames _ ih =>
    intro frames rest _
    cases htext with
    | empty hblanks =>
      rw [List.cons_append, List.append_assoc, run_of_next (by rfl),
        run_blanks (.keyOrEnd _) hblanks]
      exact run_of_next rfl
    | items hitems =>
      rw [List.cons_append, List.append_assoc, run_of_next (by rfl)]
      exact run_fields hitems (fun field h ↦ ⟨hnames field h, ih field h⟩) (Or.inr rfl)

end Skip

/-- A value that nobody wants is passed over, with the blanks before it. -/
theorem skipValue_eq {blanks text rest : List Char} (hblanks : Blanks blanks)
    (htext : ValueText text) (hends : EndsValue rest) :
    skipValue (blanks ++ (text ++ rest)) = .ok rest := by
  rw [skipValue, Skip.run_blanks (.value _) hblanks, Skip.passes_of_valueText htext _ _ hends]
  obtain ⟨c, more, rfl, -⟩ := hends
  rfl

end FlatTables.Json
