import FlatTables.Json.Fields
import FlatTables.Json.Value
import FlatTables.Proofs.JsonGrammar
import Mathlib.Tactic.IntervalCases

/-!
# What readers take from a text

A reader takes a text for a value if it reads the text behind any blanks and before anything that
may follow a value, and leaves exactly what follows (`Reader.Takes`). The rules for strings say
which texts stand for a string (`Spelled`): a character may stand for itself or be escaped by a
letter or by its code, and one outside the basic plane by the codes of two surrogates. The written
form of a string is one of these texts (`spelled_stringChars`), and the readers of strings and of
named alternatives take all of them.
-/

set_option autoImplicit false
set_option relaxedAutoImplicit false

namespace FlatTables.Json

theorem blanks_nil : Blanks [] := by simp [Blanks]

theorem Blanks.append {blanks others : List Char} (hblanks : Blanks blanks)
    (hothers : Blanks others) : Blanks (blanks ++ others) := by
  intro c hc
  exact (List.mem_append.mp hc).elim (hblanks c) (hothers c)

/-! ### Strings -/

/-- The number that four hexadecimal digits stand for. -/
def codeOf? : List Char → Option Nat
  | [first, second, third, fourth] => do
    let a ← hexDigit? first
    let b ← hexDigit? second
    let c ← hexDigit? third
    let d ← hexDigit? fourth
    return a * 0x1000 + b * 0x100 + c * 0x10 + d
  | _ => none

/-- What stands between the quotes of a string, with the characters that it stands for. -/
inductive StringText : (text value : List Char) → Prop
  | nil : StringText [] []
  | char {c : Char} {text value : List Char} (hquote : c ≠ '"') (hbackslash : c ≠ '\\')
      (hcontrol : ¬ c < ' ') (hrest : StringText text value) : StringText (c :: text) (c :: value)
  | letter {letter c : Char} {text value : List Char} (hletter : escapedChar? letter = some c)
      (hrest : StringText text value) : StringText ('\\' :: letter :: text) (c :: value)
  | code {digits text value : List Char} {c : Char} (hcode : codeOf? digits = some c.toNat)
      (hrest : StringText text value) : StringText ('\\' :: 'u' :: (digits ++ text)) (c :: value)
  | surrogates {high low text value : List Char} {first second : Nat} {c : Char}
      (hfirst : codeOf? high = some first) (hsecond : codeOf? low = some second)
      (hfirstRange : 0xD800 ≤ first ∧ first ≤ 0xDBFF)
      (hsecondRange : 0xDC00 ≤ second ∧ second ≤ 0xDFFF)
      (hc : c.toNat = 0x10000 + (first - 0xD800) * 0x400 + (second - 0xDC00))
      (hrest : StringText text value) :
      StringText ('\\' :: 'u' :: (high ++ '\\' :: 'u' :: (low ++ text))) (c :: value)

/-- The texts of a string. -/
inductive Spelled (text : String) : List Char → Prop
  | quotes {body : List Char} (hbody : StringText body text.toList) : Spelled text (quotes body)

/-- What a complete escape leads to. -/
theorem scanString_code {digits : List Char} {code : Nat} (hcode : codeOf? digits = some code)
    (high : Option Nat) (text rest : List Char) :
    scanString (.hex high 0 0) text (digits ++ rest) =
      match completeHex high code with
      | .error problem => .error problem
      | .ok (.inl decoded) => scanString .plain (decoded :: text) rest
      | .ok (.inr high) => scanString (.surrogate high) text rest := by
  unfold codeOf? at hcode
  split at hcode
  · rename_i first second third fourth
    obtain ⟨a, ha, hcode⟩ := Option.bind_eq_some_iff.mp hcode
    obtain ⟨b, hb, hcode⟩ := Option.bind_eq_some_iff.mp hcode
    obtain ⟨c, hc, hcode⟩ := Option.bind_eq_some_iff.mp hcode
    obtain ⟨d, hd, hcode⟩ := Option.bind_eq_some_iff.mp hcode
    have hvalue : (((0 * 16 + a) * 16 + b) * 16 + c) * 16 + d = code := by
      rw [← Option.some.inj hcode]
      omega
    have hread : scanString (.hex high 0 0) text ([first, second, third, fourth] ++ rest) =
        match completeHex high ((((0 * 16 + a) * 16 + b) * 16 + c) * 16 + d) with
        | .error problem => .error problem
        | .ok (.inl decoded) => scanString .plain (decoded :: text) rest
        | .ok (.inr high) => scanString (.surrogate high) text rest := by
      simp only [List.cons_append, List.nil_append, scanString, ha, hb, hc, hd]
      rfl
    rw [hread, hvalue]
  · cases hcode

theorem completeHex_none (c : Char) : completeHex none c.toNat = .ok (.inl c) := by
  have hvalid : c.toNat < 0xD800 ∨ 0xDFFF < c.toNat := by
    rcases c.valid with h | h
    · exact Or.inl h
    · exact Or.inr h.1
  rw [completeHex, if_neg (by omega), if_neg (by omega), Char.ofNat_toNat]

theorem completeHex_high {first : Nat} (hfirst : 0xD800 ≤ first ∧ first ≤ 0xDBFF) :
    completeHex none first = .ok (.inr first) := by
  rw [completeHex, if_neg (by omega), if_pos hfirst]

theorem completeHex_low {first second : Nat} {c : Char}
    (hsecond : 0xDC00 ≤ second ∧ second ≤ 0xDFFF)
    (hc : c.toNat = 0x10000 + (first - 0xD800) * 0x400 + (second - 0xDC00)) :
    completeHex (some first) second = .ok (.inl c) := by
  have hvalue : (first - 0xD800) * 0x400 + (second - 0xDC00) + 0x10000 = c.toNat := by omega
  rw [completeHex, if_pos hsecond, hvalue, Char.ofNat_toNat]

/-- A string is decoded up to its closing quote. -/
theorem scanString_eq {body value : List Char} (hbody : StringText body value)
    (text rest : List Char) :
    scanString .plain text (body ++ '"' :: rest) =
      .ok (String.ofList (text.reverse ++ value), rest) := by
  induction hbody generalizing text with
  | nil => simp [scanString]
  | char hquote hbackslash hcontrol _ ih =>
    rw [List.cons_append, scanString, if_neg hquote, if_neg hbackslash, if_neg hcontrol, ih]
    simp
  | @letter letter c body value hletter _ ih =>
    have hcode : letter ≠ 'u' := by
      rintro rfl
      simp [escapedChar?] at hletter
    rw [List.cons_append, List.cons_append, scanString, if_neg (by decide), if_pos rfl, scanString,
      if_neg hcode, hletter]
    simp [ih]
  | @code digits body value c hcode _ ih =>
    rw [List.cons_append, List.cons_append, scanString, if_neg (by decide), if_pos rfl, scanString,
      if_pos rfl, List.append_assoc, scanString_code hcode, completeHex_none]
    simp [ih]
  | @surrogates high low body value first second c hfirst hsecond hfirstRange hsecondRange hc _
      ih =>
    rw [List.cons_append, List.cons_append, scanString, if_neg (by decide), if_pos rfl, scanString,
      if_pos rfl, List.append_assoc, scanString_code hfirst, completeHex_high hfirstRange]
    simp only [List.cons_append, List.append_assoc]
    rw [scanString, if_pos rfl, scanString, if_pos rfl, scanString_code hsecond,
      completeHex_low hsecondRange hc]
    simp [ih]

/-! ### Written strings -/

theorem hexDigit?_digitChar {digit : Nat} (hdigit : digit < 16) :
    hexDigit? (Nat.digitChar digit) = some digit := by
  interval_cases digit <;> rfl

/-- A character is written as itself or escaped. -/
theorem stringText_escapeChar (c : Char) {text value : List Char} (hrest : StringText text value) :
    StringText (Value.escapeChar c ++ text) (c :: value) := by
  unfold Value.escapeChar
  split
  · exact .letter rfl hrest
  · exact .letter rfl hrest
  · exact .letter rfl hrest
  · exact .letter rfl hrest
  · exact .letter rfl hrest
  · exact .letter rfl hrest
  · exact .letter rfl hrest
  · rename_i hquote hbackslash _ _ _ _ _
    by_cases hcontrol : c < ' '
    · have hsmall : c.toNat < 32 := hcontrol
      have hhigh := hexDigit?_digitChar (show c.toNat / 16 < 16 by omega)
      have hlow := hexDigit?_digitChar (show c.toNat % 16 < 16 by omega)
      have hzero : hexDigit? '0' = some 0 := rfl
      have hcode : codeOf? ['0', '0', Nat.digitChar (c.toNat / 16), Nat.digitChar (c.toNat % 16)] =
          some c.toNat := by
        simp [codeOf?, hzero, hhigh, hlow]
        omega
      rw [if_pos hcontrol]
      exact .code hcode hrest
    · rw [if_neg hcontrol]
      exact .char hquote hbackslash hcontrol hrest

theorem spelled_stringChars (text : String) : Spelled text (Value.stringChars text) := by
  refine .quotes ?_
  induction text.toList with
  | nil => exact .nil
  | cons c characters ih => exact stringText_escapeChar c ih

/-! ### Readers -/

namespace Reader

variable {α β : Type}

theorem bind_eq_of_ok {reader : Reader α} {next : α → Reader β} {text rest : List Char} {value : α}
    (hreader : reader text = .ok (value, rest)) : (reader >>= next) text = next value rest := by
  change (reader text >>= fun result ↦ next result.1 result.2) = _
  rw [hreader]
  rfl

theorem dropWhile_blanks {blanks : List Char} (hblanks : Blanks blanks) (rest : List Char) :
    (blanks ++ rest).dropWhile Skip.isBlank = rest.dropWhile Skip.isBlank :=
  List.dropWhile_append_of_pos hblanks

theorem peek?_eq {blanks rest : List Char} {c : Char} (hblanks : Blanks blanks)
    (hc : Skip.isBlank c = false) :
    peek? (blanks ++ c :: rest) = .ok (some c, c :: rest) := by
  rw [peek?, dropWhile_blanks hblanks, List.dropWhile_cons_of_neg (by simp [hc])]
  rfl

theorem peek_eq {blanks rest : List Char} {c : Char} (hblanks : Blanks blanks)
    (hc : Skip.isBlank c = false) : peek (blanks ++ c :: rest) = .ok (c, c :: rest) := by
  rw [peek, bind_eq_of_ok (peek?_eq hblanks hc)]
  rfl

theorem peek_append {before blanks rest : List Char} {c : Char} (hbefore : Blanks before)
    (hblanks : Blanks blanks) (hc : Skip.isBlank c = false) :
    peek (before ++ (blanks ++ c :: rest)) = .ok (c, c :: rest) := by
  rw [← List.append_assoc]
  exact peek_eq (hbefore.append hblanks) hc

theorem peek_spelled {text : String} {written blanks : List Char} (hwritten : Spelled text written)
    (hblanks : Blanks blanks) (rest : List Char) :
    peek (blanks ++ (written ++ rest)) = .ok ('"', written ++ rest) := by
  obtain ⟨-⟩ := hwritten
  exact peek_eq hblanks (by decide)

theorem literal_append (expected rest : List Char) :
    literal expected (expected ++ rest) = .ok ((), rest) := by
  induction expected with
  | nil => rfl
  | cons c expected ih =>
    rw [List.cons_append, literal]
    simpa using ih

theorem stringHere_eq {text : String} {written : List Char} (hwritten : Spelled text written)
    (rest : List Char) : stringHere (written ++ rest) = .ok (text, rest) := by
  obtain ⟨hbody⟩ := hwritten
  rw [stringHere, bind_eq_of_ok (show advance _ = .ok ((), _) from rfl)]
  rw [quotes, List.cons_append, List.append_assoc]
  exact (scanString_eq hbody [] rest).trans (by simp)

/-- Behind blanks and before what ends a value, the reader reads just this text and makes the value
of it. -/
def Takes (reader : Reader α) (text : List Char) (value : α) : Prop :=
  ∀ ⦃blanks rest : List Char⦄, Blanks blanks → EndsValue rest →
    reader (blanks ++ (text ++ rest)) = .ok (value, rest)

theorem Takes.map {reader : Reader α} {text : List Char} {value : α}
    (htakes : reader.Takes text value) (f : α → β) :
    (reader >>= fun value ↦ pure (f value)).Takes text (f value) := by
  intro blanks rest hblanks hends
  rw [bind_eq_of_ok (htakes hblanks hends)]
  rfl

theorem takes_skip {text : List Char} (htext : ValueText text) : skip.Takes text () := by
  intro blanks rest hblanks hends
  rw [skip, skipValue_eq hblanks htext hends]
  rfl

theorem takes_string {text : String} {written : List Char} (hwritten : Spelled text written)
    (expected : String) : (string expected).Takes written text := by
  intro blanks rest hblanks hends
  rw [string, bind_eq_of_ok (peek_spelled hwritten hblanks rest), if_pos rfl,
    stringHere_eq hwritten]

theorem takes_variant {alternatives : List (String × α)} {name : String} {value : α}
    {written : List Char} (hwritten : Spelled name written)
    (hvalue : alternatives.lookup name = some value) :
    (variant alternatives).Takes written value := by
  intro blanks rest hblanks hends
  rw [variant, bind_eq_of_ok (peek_spelled hwritten hblanks rest)]
  change (stringHere >>= choose alternatives) (written ++ rest) = _
  rw [bind_eq_of_ok (stringHere_eq hwritten rest), choose, hvalue]
  rfl

/-- The text begins neither with a blank nor as `null` does. -/
def BeginsOtherThanNull (text : List Char) : Prop :=
  ∃ c rest, text = c :: rest ∧ Skip.isBlank c = false ∧ c ≠ 'n'

theorem beginsOtherThanNull_of_spelled {text : String} {written : List Char}
    (hwritten : Spelled text written) : BeginsOtherThanNull written := by
  obtain ⟨-⟩ := hwritten
  exact ⟨_, _, rfl, by decide, by decide⟩

theorem beginsOtherThanNull_of_bracketed {item : α → List Char → Prop} {opening closing : Char}
    {items : List α} {text : List Char} (hblank : Skip.isBlank opening = false)
    (hother : opening ≠ 'n') (htext : Bracketed item opening closing items text) :
    BeginsOtherThanNull text := by
  cases htext <;> exact ⟨_, _, rfl, hblank, hother⟩

/-- What may be absent: the text of a value, or `null`. -/
inductive OptionText (written : α → List Char → Prop) : Option α → List Char → Prop
  | none : OptionText written none ['n', 'u', 'l', 'l']
  | some {value : α} {text : List Char} (htext : written value text) :
      OptionText written (some value) text

theorem takes_nullable {inner : Reader β} {written : α → List Char → Prop} (f : α → β)
    {option : Option α} {text : List Char}
    (hinner : ∀ {value : α} {text : List Char}, written value text → inner.Takes text (f value))
    (hhead : ∀ {value : α} {text : List Char}, written value text → BeginsOtherThanNull text)
    (htext : OptionText written option text) : (nullable inner).Takes text (option.map f) := by
  intro blanks rest hblanks hends
  cases htext with
  | none =>
    rw [nullable, List.cons_append, bind_eq_of_ok (peek?_eq hblanks (by decide)), if_pos rfl]
    rw [← List.cons_append, bind_eq_of_ok (literal_append _ rest)]
    rfl
  | @some value text htext =>
    obtain ⟨c, more, rfl, hblank, hc⟩ := hhead htext
    have hother : some c ≠ some 'n' := fun h ↦ hc (Option.some.inj h)
    have hvalue := (hinner htext).map some blanks_nil hends
    rw [nullable, List.cons_append, bind_eq_of_ok (peek?_eq hblanks hblank), if_neg hother]
    exact hvalue

/-! ### Punctuation -/

/-- What stands before an element or a field: a comma, unless it is the first one. -/
def separator (first : Bool) : List Char :=
  if first then [] else [',']

theorem hasField_eq_true {first : Bool} {before blanks rest : List Char} (hbefore : Blanks before)
    (hblanks : Blanks blanks) :
    hasField first (before ++ (separator first ++ (blanks ++ '"' :: rest))) =
      .ok (true, '"' :: rest) := by
  cases first with
  | true =>
    rw [hasField]
    change (peek >>= _) (before ++ (blanks ++ '"' :: rest)) = _
    rw [bind_eq_of_ok (peek_append hbefore hblanks (by decide)), if_neg (by decide), if_pos rfl,
      if_pos rfl]
    rfl
  | false =>
    rw [hasField]
    change (peek >>= _) (before ++ ',' :: (blanks ++ '"' :: rest)) = _
    rw [bind_eq_of_ok (peek_eq hbefore (by decide)), if_neg (by decide),
      if_neg Bool.false_ne_true, if_pos rfl,
      bind_eq_of_ok (show advance _ = .ok ((), blanks ++ '"' :: rest) from rfl),
      bind_eq_of_ok (peek_eq hblanks (by decide)), if_pos rfl]
    rfl

theorem hasField_eq_false {first : Bool} {blanks rest : List Char} (hblanks : Blanks blanks) :
    hasField first (blanks ++ '\x7d' :: rest) = .ok (false, '\x7d' :: rest) := by
  rw [hasField, bind_eq_of_ok (peek_eq hblanks (by decide)), if_pos rfl]
  rfl

theorem hasElement_eq_true {first : Bool} {before blanks rest : List Char} {c : Char}
    (hbefore : Blanks before) (hblanks : Blanks blanks) (hc : Skip.isBlank c = false)
    (hbracket : c ≠ ']') :
    hasElement first (before ++ (separator first ++ (blanks ++ c :: rest))) =
      .ok (true, c :: rest) := by
  cases first with
  | true =>
    rw [hasElement]
    change (peek >>= _) (before ++ (blanks ++ c :: rest)) = _
    rw [bind_eq_of_ok (peek_append hbefore hblanks hc), if_neg hbracket, if_pos rfl]
    rfl
  | false =>
    rw [hasElement]
    change (peek >>= _) (before ++ ',' :: (blanks ++ c :: rest)) = _
    rw [bind_eq_of_ok (peek_eq hbefore (by decide)), if_neg (by decide),
      if_neg Bool.false_ne_true, if_pos rfl,
      bind_eq_of_ok (show advance _ = .ok ((), blanks ++ c :: rest) from rfl),
      bind_eq_of_ok (peek_eq hblanks hc), if_neg hbracket]
    rfl

theorem hasElement_eq_false {first : Bool} {blanks rest : List Char} (hblanks : Blanks blanks) :
    hasElement first (blanks ++ ']' :: rest) = .ok (false, ']' :: rest) := by
  rw [hasElement, bind_eq_of_ok (peek_eq hblanks (by decide)), if_pos rfl]
  rfl

theorem colon_eq {blanks rest : List Char} (hblanks : Blanks blanks) :
    colon (blanks ++ ':' :: rest) = .ok ((), rest) := by
  rw [colon, bind_eq_of_ok (peek_eq hblanks (by decide)), if_pos rfl]
  rfl

theorem close_eq {bracket : Char} {rest : List Char} (hbracket : Skip.isBlank bracket = false) :
    close bracket (bracket :: rest) = .ok ((), rest) := by
  have hpeek : peek (bracket :: rest) = .ok (bracket, bracket :: rest) :=
    peek_eq blanks_nil hbracket
  rw [close, bind_eq_of_ok hpeek, if_pos rfl]
  rfl

theorem atEnd_eq {blanks : List Char} (hblanks : Blanks blanks) : atEnd blanks = .ok ((), []) := by
  have hnone : blanks.dropWhile Skip.isBlank = [] := by
    simpa using dropWhile_blanks hblanks []
  have hpeek : peek? blanks = .ok (none, []) := by
    rw [peek?, hnone]
    rfl
  rw [atEnd, bind_eq_of_ok hpeek]
  rfl

/-- A whole text is read where only blanks are left. -/
theorem readAll_eq {reader : Reader α} {text : String} {value : α} {blanks : List Char}
    (hread : reader text.toList = .ok (value, blanks)) (hblanks : Blanks blanks) :
    reader.readAll text = .ok value := by
  change (reader text.toList >>= fun result ↦ atEnd result.2 >>= fun _ ↦ pure result.1) = _
  rw [hread]
  change (atEnd blanks >>= fun _ ↦ pure value) = _
  rw [atEnd_eq hblanks]
  rfl

end Reader

end FlatTables.Json
