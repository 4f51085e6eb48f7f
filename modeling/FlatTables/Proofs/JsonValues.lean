import FlatTables.Proofs.JsonNumbers
import FlatTables.Proofs.JsonRecords

/-!
# Values and their texts

The grammar with meaning: which texts stand for a value (`Value.WrittenAs`). A field of an object
comes as often as it is written, in the order of the text, and an integer has 64 bits. All these
texts are JSON (`Value.WrittenAs.valueText`), and every one is read as the value that it stands for,
as long as the reader allows as many brackets to be open at once (`Value.WrittenAs.takes`).

Both layouts in which a value is written are among its texts, the one without blanks and the one
with a line to each item (`Value.Printable.writtenAs_compactChars`,
`Value.Printable.writtenAs_prettyChars`), so either one gives the value back
(`Value.WrittenAs.parse_eq`).
-/

set_option autoImplicit false
set_option relaxedAutoImplicit false

namespace FlatTables.Json

/-- The text is JSON: a value with blanks around it. -/
def WellFormed (text : String) : Prop :=
  ∃ value, ValueText value ∧ ElementText value text.toList

/-! ### Strings as grammar -/

theorem codeOf?_isSome {digits : List Char} {code : Nat} (hcode : codeOf? digits = some code) :
    digits.length = 4 ∧ ∀ c ∈ digits, (hexDigit? c).isSome = true := by
  unfold codeOf? at hcode
  split at hcode
  · obtain ⟨a, ha, hcode⟩ := Option.bind_eq_some_iff.mp hcode
    obtain ⟨b, hb, hcode⟩ := Option.bind_eq_some_iff.mp hcode
    obtain ⟨c, hc, hcode⟩ := Option.bind_eq_some_iff.mp hcode
    obtain ⟨d, hd, -⟩ := Option.bind_eq_some_iff.mp hcode
    simp [ha, hb, hc, hd]
  · cases hcode

/-- What stands for characters may stand between quotes. -/
theorem StringText.stringBody {text value : List Char} (htext : StringText text value) :
    StringBody text := by
  induction htext with
  | nil => exact .nil
  | char hquote hbackslash hcontrol _ ih => exact .char hquote hbackslash hcontrol ih
  | letter hletter _ ih => exact .letter (by rw [hletter]; rfl) ih
  | code hcode _ ih =>
    obtain ⟨hlength, hdigits⟩ := codeOf?_isSome hcode
    exact .code hlength hdigits ih
  | surrogates hfirst hsecond _ _ _ _ ih =>
    obtain ⟨hlength, hdigits⟩ := codeOf?_isSome hfirst
    obtain ⟨hlength', hdigits'⟩ := codeOf?_isSome hsecond
    exact .code hlength hdigits (.code hlength' hdigits' ih)

/-- An object is a JSON value if the values of its fields are. -/
theorem valueText_of_namedFields {fields : List (String × List Char)} {text : List Char}
    (htext : Bracketed NamedField '\x7b' '\x7d' fields text)
    (hvalues : ∀ field ∈ fields, ValueText field.2) : ValueText text := by
  have hseparated {fields : List (String × List Char)} {text : List Char}
      (hfields : Separated NamedField fields text) (hvalues : ∀ field ∈ fields, ValueText field.2) :
      ∃ bodies, Separated FieldText bodies text ∧
        ∀ field ∈ bodies, StringBody field.1 ∧ ValueText field.2 := by
    induction hfields with
    | last hfirst =>
      obtain ⟨hname, hfield⟩ := hfirst
      refine ⟨_, .last hfield, List.forall_mem_singleton.mpr ⟨hname.stringBody, ?_⟩⟩
      exact hvalues _ List.mem_cons_self
    | more hfirst _ ih =>
      obtain ⟨hname, hfield⟩ := hfirst
      obtain ⟨bodies, hbodies, hall⟩ :=
        ih fun field hfield ↦ hvalues field (List.mem_cons_of_mem _ hfield)
      refine ⟨_, .more hfield hbodies, List.forall_mem_cons.mpr ⟨⟨hname.stringBody, ?_⟩, hall⟩⟩
      exact hvalues _ List.mem_cons_self
  cases htext with
  | empty hblanks => exact .object (.empty hblanks) (by simp) (by simp)
  | items hitems =>
    obtain ⟨bodies, hbodies, hall⟩ := hseparated hitems hvalues
    exact .object (.items hbodies) (fun field hfield ↦ (hall field hfield).1)
      fun field hfield ↦ (hall field hfield).2

namespace Value

open Reader

/-- The texts of a value with at most so many brackets open at once. -/
inductive WrittenAs : (levels : Nat) → Value → List Char → Prop
  | null {levels : Nat} : WrittenAs levels .null ['n', 'u', 'l', 'l']
  | true {levels : Nat} : WrittenAs levels (.boolean true) ['t', 'r', 'u', 'e']
  | false {levels : Nat} : WrittenAs levels (.boolean false) ['f', 'a', 'l', 's', 'e']
  | natural {levels : Nat} {digits : List Char} (hdigits : IntegerPart digits)
      (hfits : Nat.ofDigitChars 10 digits 0 < 2 ^ 64) :
      WrittenAs levels (.integer (Nat.ofDigitChars 10 digits 0 : Nat)) digits
  | negative {levels : Nat} {digits : List Char} (hdigits : IntegerPart digits)
      (hsome : 0 < Nat.ofDigitChars 10 digits 0) (hfits : Nat.ofDigitChars 10 digits 0 ≤ 2 ^ 63) :
      WrittenAs levels (.integer (-(Nat.ofDigitChars 10 digits 0 : Nat))) ('-' :: digits)
  | string {levels : Nat} {content : String} {text : List Char} (htext : Spelled content text) :
      WrittenAs levels (.string content) text
  | array {levels : Nat} {elements : List (Value × List Char)} {text : List Char}
      (htext : Bracketed (fun element ↦ ElementText element.2) '[' ']' elements text)
      (helements : ∀ element ∈ elements, WrittenAs levels element.1 element.2) :
      WrittenAs (levels + 1) (.array (elements.map Prod.fst)) text
  | object {levels : Nat} {fields : List (String × Value × List Char)} {text : List Char}
      (htext : Bracketed (fun field ↦ NamedField (field.1, field.2.2)) '\x7b' '\x7d' fields text)
      (hvalues : ∀ field ∈ fields, WrittenAs levels field.2.1 field.2.2) :
      WrittenAs (levels + 1) (.object (fields.map fun field ↦ (field.1, field.2.1))) text

variable {levels depth fuel : Nat} {value : Value} {text : List Char}

/-- What stands for a value is JSON. -/
theorem WrittenAs.valueText (htext : WrittenAs levels value text) : ValueText text := by
  induction htext with
  | null => exact .null
  | true => exact .true
  | false => exact .false
  | natural hdigits _ => simpa using ValueText.number (.unsigned hdigits .absent .absent)
  | negative hdigits _ _ => simpa using ValueText.number (.minus hdigits .absent .absent)
  | string htext =>
    obtain ⟨hbody⟩ := htext
    exact .string hbody.stringBody
  | array htext _ ih =>
    exact .array (htext.map Prod.snd fun _ _ _ h ↦ h) (List.forall_mem_map.mpr ih)
  | object htext _ ih =>
    exact valueText_of_namedFields (htext.map (fun field ↦ (field.1, field.2.2)) fun _ _ _ h ↦ h)
      (List.forall_mem_map.mpr ih)

/-! ### Reading -/

/-- A number is read from its first character on. -/
theorem read_number {c : Char} {blanks rest : List Char} (hc : c = '-' ∨ c.isDigit = true)
    (hblanks : Blanks blanks) :
    read (fuel + 1) depth (blanks ++ c :: rest) =
      (numberHere c >>= fun number ↦ pure (.number number)) (c :: rest) := by
  have hblank : Skip.isBlank c = false := by
    rcases hc with rfl | hc
    · rfl
    · exact Skip.isBlank_of_isDigit hc
  rw [read, bind_eq_of_ok (peek_eq hblanks hblank)]
  split
  · simp at hc
  · simp at hc
  · simp at hc
  · simp at hc
  · simp at hc
  · simp at hc
  · rw [if_pos hc]

theorem takes_natural {digits : List Char} (hdigits : IntegerPart digits)
    (hfits : Nat.ofDigitChars 10 digits 0 < 2 ^ 64) :
    (read (fuel + 1) depth).Takes digits (.integer (Nat.ofDigitChars 10 digits 0 : Nat)) := by
  intro blanks rest hblanks hends
  have hnumber := @Number.read_eq false digits rest hdigits hends hfits Bool.false_ne_true.elim
  obtain ⟨hne, hall⟩ := hdigits.decimalDigits
  cases digits with
  | nil => exact absurd rfl hne
  | cons c digits =>
    have hc : c.isDigit = true := hall c List.mem_cons_self
    have hminus : c ≠ '-' := by
      rintro rfl
      simp at hc
    rw [List.cons_append] at hnumber ⊢
    rw [read_number (Or.inr hc) hblanks, numberHere, if_neg hminus]
    exact bind_eq_of_ok hnumber

theorem takes_negative {digits : List Char} (hdigits : IntegerPart digits)
    (hsome : 0 < Nat.ofDigitChars 10 digits 0) (hfits : Nat.ofDigitChars 10 digits 0 ≤ 2 ^ 63) :
    (read (fuel + 1) depth).Takes ('-' :: digits)
      (.integer (-(Nat.ofDigitChars 10 digits 0 : Nat))) := by
  intro blanks rest hblanks hends
  have hnumber := @Number.read_eq true digits rest hdigits hends (by omega) fun _ ↦ ⟨hsome, hfits⟩
  rw [List.cons_append, read_number (Or.inl rfl) hblanks, numberHere, if_pos rfl]
  exact bind_eq_of_ok hnumber

/-- Every text of a value is read as this value, by induction on the text: what stands between
brackets has been read before, with one bracket less. -/
theorem WrittenAs.takes (htext : WrittenAs levels value text) (hfuel : text.length ≤ fuel)
    (hdepth : levels < depth) : (read fuel depth).Takes text value := by
  induction htext generalizing fuel depth with
  | null =>
    obtain ⟨fuel, rfl⟩ : ∃ left, fuel = left + 1 := ⟨fuel - 1, by simp at hfuel; omega⟩
    intro blanks rest hblanks _
    rw [read, List.cons_append, bind_eq_of_ok (peek_eq hblanks (by decide))]
    exact bind_eq_of_ok (literal_append ['n', 'u', 'l', 'l'] rest)
  | true =>
    obtain ⟨fuel, rfl⟩ : ∃ left, fuel = left + 1 := ⟨fuel - 1, by simp at hfuel; omega⟩
    intro blanks rest hblanks _
    rw [read, List.cons_append, bind_eq_of_ok (peek_eq hblanks (by decide))]
    exact bind_eq_of_ok (literal_append ['t', 'r', 'u', 'e'] rest)
  | false =>
    obtain ⟨fuel, rfl⟩ : ∃ left, fuel = left + 1 := ⟨fuel - 1, by simp at hfuel; omega⟩
    intro blanks rest hblanks _
    rw [read, List.cons_append, bind_eq_of_ok (peek_eq hblanks (by decide))]
    exact bind_eq_of_ok (literal_append ['f', 'a', 'l', 's', 'e'] rest)
  | natural hdigits hfits =>
    have hsome := List.length_pos_of_ne_nil hdigits.decimalDigits.1
    obtain ⟨fuel, rfl⟩ : ∃ left, fuel = left + 1 := ⟨fuel - 1, by omega⟩
    exact takes_natural hdigits hfits
  | negative hdigits hsome hfits =>
    obtain ⟨fuel, rfl⟩ : ∃ left, fuel = left + 1 := ⟨fuel - 1, by simp at hfuel; omega⟩
    exact takes_negative hdigits hsome hfits
  | string htext =>
    refine read_string htext ?_ depth
    obtain ⟨-⟩ := htext
    exact lt_of_lt_of_le (by simp [quotes]) hfuel
  | array htext helements ih =>
    obtain ⟨depth, rfl⟩ : ∃ left, depth = left + 1 := ⟨depth - 1, by omega⟩
    refine takes_elements (by omega) (htext.map Prod.fst fun element helement _ hpadded ↦ ?_) hfuel
    have hhead := Skip.exists_head_of_valueText (helements element helement).valueText
    exact .padded hpadded hhead fun fuel hfuel ↦ ih element helement hfuel (by omega)
  | object htext _ ih =>
    obtain ⟨depth, rfl⟩ : ∃ left, depth = left + 1 := ⟨depth - 1, by omega⟩
    refine takes_fields (by omega) ?_ hfuel
    refine htext.map (fun field ↦ (field.1, field.2.1)) fun field hfield _ hnamed ↦ ?_
    exact .named hnamed fun fuel hfuel ↦ ih field hfield hfuel (by omega)

/-! ### Lines -/

section Lines

variable {line : String}

theorem blanks_lineEnd : Blanks ['\n'] := by simp [Blanks, Skip.isBlank]

theorem toList_append_lineEnd (line : String) : (line ++ "\n").toList = line.toList ++ ['\n'] := by
  simp

/-- A text of a value with a line end behind it is JSON. -/
theorem WrittenAs.wellFormed (htext : WrittenAs levels value line.toList) :
    WellFormed (line ++ "\n") := by
  refine ⟨line.toList, htext.valueText, ?_⟩
  rw [toList_append_lineEnd]
  exact @ElementText.padded _ [] ['\n'] blanks_nil blanks_lineEnd

/-- A text of a value with a line end behind it is read as this value. -/
theorem WrittenAs.parse_eq (htext : WrittenAs levels value line.toList)
    (hlevels : levels < maxDepth) : parse (line ++ "\n") = .ok value := by
  have hends : EndsValue ['\n'] := ⟨'\n', [], rfl, Or.inl rfl⟩
  have htakes : (reader maxDepth).Takes line.toList value :=
    takes_reader fun _ hfuel ↦ htext.takes hfuel hlevels
  have hread := htakes blanks_nil hends
  rw [List.nil_append, ← toList_append_lineEnd] at hread
  exact readAll_eq hread blanks_lineEnd

end Lines

/-! ### Writing -/

/-- The values that are written so that they can be read: numbers are integers of 64 bits, and at
most so many brackets are open at once. -/
inductive Printable : (levels : Nat) → Value → Prop
  | null {levels : Nat} : Printable levels .null
  | boolean {levels : Nat} (flag : Bool) : Printable levels (.boolean flag)
  | integer {levels : Nat} {number : Int} (hlow : -2 ^ 63 ≤ number) (hhigh : number < 2 ^ 64) :
      Printable levels (.integer number)
  | string {levels : Nat} (content : String) : Printable levels (.string content)
  | array {levels : Nat} {elements : List Value}
      (helements : ∀ element ∈ elements, Printable levels element) :
      Printable (levels + 1) (.array elements)
  | object {levels : Nat} {fields : List (String × Value)}
      (hvalues : ∀ field ∈ fields, Printable levels field.2) :
      Printable (levels + 1) (.object fields)

theorem writtenAs_integer {number : Int} (hlow : -2 ^ 63 ≤ number) (hhigh : number < 2 ^ 64) :
    WrittenAs levels (.integer number) (numberChars (.integer number)) := by
  have hdigits := integerPart_toDigits number.natAbs
  have hvalue : Nat.ofDigitChars 10 (Nat.toDigits 10 number.natAbs) 0 = number.natAbs :=
    Nat.ofDigitChars_ten_toDigits
  rw [numberChars, Int.toString_eq_repr, Int.repr_eq_if]
  by_cases hsign : 0 ≤ number
  · have hnatural := @WrittenAs.natural levels _ hdigits (by omega)
    have hnumber : ((number.natAbs : Nat) : Int) = number := Int.natAbs_of_nonneg hsign
    have htoNat : number.toNat = number.natAbs := by omega
    rw [hvalue, hnumber] at hnatural
    rwa [if_pos hsign, Nat.repr_eq_ofList_toDigits, String.toList_ofList, htoNat]
  · have hnegative := @WrittenAs.negative levels _ hdigits (by omega) (by omega)
    have hnumber : -((number.natAbs : Nat) : Int) = number := by omega
    have htoNat : (-number).toNat = number.natAbs := by omega
    rw [hvalue, hnumber] at hnegative
    rw [if_neg hsign, Nat.repr_eq_ofList_toDigits, String.toList_append, String.toList_ofList,
      String.toList_ofList, htoNat]
    exact hnegative

section Layouts

variable {lead trail pad : List Char} {written : Value → List Char}

/-- An array is written by its elements, with any blanks before them and behind the last one. -/
theorem writtenAs_elements {elements : List Value} (hlead : Blanks lead) (htrail : Blanks trail)
    (helements : ∀ element ∈ elements, WrittenAs levels element (written element)) :
    WrittenAs (levels + 1) (.array elements)
      ('[' :: (listed lead trail (elements.map written) ++ [']'])) := by
  let items := elements.map fun element ↦ (element, written element)
  have htext := @bracketed_listed _ (fun item : Value × List Char ↦ ElementText item.2) lead trail
    Prod.snd items '[' ']' htrail fun item _ ↦
      ⟨by simpa using @ElementText.padded item.2 lead [] hlead blanks_nil,
        @ElementText.padded item.2 lead trail hlead htrail⟩
  have harray := WrittenAs.array htext (List.forall_mem_map.mpr helements)
  simpa [items, Function.comp_def] using harray

/-- An object is written by its fields, with any blanks before them, behind their colons and behind
the last one. -/
theorem writtenAs_fields {fields : List (String × Value)} (hlead : Blanks lead)
    (htrail : Blanks trail) (hpad : Blanks pad)
    (hvalues : ∀ field ∈ fields, WrittenAs levels field.2 (written field.2)) :
    WrittenAs (levels + 1) (.object fields)
      ('\x7b' :: (listed lead trail
        (fields.map fun field ↦ stringChars field.1 ++ ':' :: (pad ++ written field.2)) ++
          ['\x7d'])) := by
  let items := fields.map fun field ↦ (field.1, field.2, written field.2)
  have htext := @bracketed_listed _ (fun item : String × Value × List Char ↦
      NamedField (item.1, item.2.2)) lead trail
    (fun item ↦ stringChars item.1 ++ ':' :: (pad ++ item.2.2)) items '\x7b' '\x7d' htrail
    fun item _ ↦
      ⟨by simpa using namedField_padded hlead hpad blanks_nil item.1 item.2.2,
        by simpa using namedField_padded hlead hpad htrail item.1 item.2.2⟩
  have hobject := WrittenAs.object htext (List.forall_mem_map.mpr hvalues)
  simpa [items, Function.comp_def] using hobject

end Layouts

/-- The layout without blanks is a text of the value. -/
theorem Printable.writtenAs_compactChars (hvalue : Printable levels value) :
    WrittenAs levels value value.compactChars := by
  induction hvalue with
  | null => rw [compactChars]; exact .null
  | boolean flag => cases flag <;> rw [compactChars] <;> constructor
  | integer hlow hhigh => rw [Value.integer, compactChars]; exact writtenAs_integer hlow hhigh
  | string content => rw [compactChars]; exact .string (spelled_stringChars content)
  | array _ ih =>
    rw [compactChars, compactElements_eq]
    exact writtenAs_elements blanks_nil blanks_nil ih
  | object _ ih =>
    rw [compactChars, compactFields_eq]
    exact writtenAs_fields blanks_nil blanks_nil blanks_nil ih

theorem prettyElements_eq (level : Nat) (elements : List Value) :
    prettyElements level elements =
      listed (lineStart (level + 1)) (lineStart level)
        (elements.map (prettyChars (level + 1))) ++ [']'] := by
  induction elements with
  | nil => rw [prettyElements, List.map_nil, listed]
  | cons first elements ih =>
    cases elements with
    | nil => simp [prettyElements, listed]
    | cons second elements =>
      rw [prettyElements, ih]
      · simp [listed]
      · simp

theorem prettyFields_eq (level : Nat) (fields : List (String × Value)) :
    prettyFields level fields =
      listed (lineStart (level + 1)) (lineStart level)
        (fields.map fun field ↦
          stringChars field.1 ++ ':' :: ([' '] ++ field.2.prettyChars (level + 1))) ++
        ['\x7d'] := by
  induction fields with
  | nil => rw [prettyFields, List.map_nil, listed]
  | cons first fields ih =>
    cases fields with
    | nil => simp [prettyFields, listed]
    | cons second fields =>
      rw [prettyFields, ih]
      · simp [listed]
      · simp

theorem blanks_lineStart (level : Nat) : Blanks (lineStart level) := by
  intro c hc
  rcases List.mem_cons.mp hc with rfl | hc
  · rfl
  · rw [List.eq_of_mem_replicate hc]
    rfl

/-- The layout with a line to each item is a text of the value, on every level. -/
theorem Printable.writtenAs_prettyChars (hvalue : Printable levels value) (level : Nat) :
    WrittenAs levels value (value.prettyChars level) := by
  have hspace : Blanks [' '] := by simp [Blanks, Skip.isBlank]
  induction hvalue generalizing level with
  | null => rw [prettyChars]; exact .null
  | boolean flag => cases flag <;> rw [prettyChars] <;> constructor
  | integer hlow hhigh => rw [Value.integer, prettyChars]; exact writtenAs_integer hlow hhigh
  | string content => rw [prettyChars]; exact .string (spelled_stringChars content)
  | @array levels elements _ ih =>
    cases elements with
    | nil =>
      rw [prettyChars]
      exact @writtenAs_elements levels [] [] compactChars [] blanks_nil blanks_nil (by simp)
    | cons first elements =>
      rw [prettyChars, prettyElements_eq]
      · exact writtenAs_elements (blanks_lineStart _) (blanks_lineStart _)
          fun element helement ↦ ih element helement (level + 1)
      · simp
  | @object levels fields _ ih =>
    cases fields with
    | nil =>
      rw [prettyChars]
      exact @writtenAs_fields levels [] [] [] compactChars [] blanks_nil blanks_nil blanks_nil
        (by simp)
    | cons first fields =>
      rw [prettyChars, prettyFields_eq]
      · exact writtenAs_fields (blanks_lineStart _) (blanks_lineStart _) hspace
          fun field hfield ↦ ih field hfield (level + 1)
      · simp

theorem Printable.writtenAs_compact (hvalue : Printable levels value) :
    WrittenAs levels value value.compact.toList := by
  rw [compact, String.toList_ofList]
  exact hvalue.writtenAs_compactChars

theorem Printable.writtenAs_pretty (hvalue : Printable levels value) :
    WrittenAs levels value value.pretty.toList := by
  rw [pretty, String.toList_ofList]
  exact hvalue.writtenAs_prettyChars 0

end Value

end FlatTables.Json
