import Mathlib.Data.List.Forall2
import FlatTables.Proofs.JsonReading

/-!
# Records as they may be written

A record with named fields may be written as an object in many ways. Its clauses (`Clause`) say for
each field whether it may be left out and which texts its value has. The object lists the clauses in
any order, no clause twice, and among them any fields with other names (`Describes`).

Whatever of these ways is chosen, the same record is read (`Shape.Follows.reader_eq`), given what
each single slot does with the text of its clause (`Shape.Follows`). Objects of strings are read
entry by entry, in the order in which they are listed (`Reader.takes_strings`). Arrays and objects
of any values are read item by item, as long as there is fuel for the characters of the text
(`Value.takes_elements`, `Value.takes_fields`), and so is a list of strings (`Value.takes_array`).

What is written between brackets are the items with commas between them and equal blanks around
each (`Value.bracketed_listed`), so what is written without blanks is among these texts
(`describes_of_forall₂`, `Value.bracketed_object`).
-/

set_option autoImplicit false
set_option relaxedAutoImplicit false

namespace FlatTables.Json

variable {α β : Type}

/-! ### Fields with names -/

/-- A field of an object: its name, in any spelling, and the text of its value. -/
inductive NamedField (field : String × List Char) : List Char → Prop
  | named {body text : List Char} (hname : StringText body field.1.toList)
      (htext : FieldText (body, field.2) text) : NamedField field text

/-- A field whose value is a string. -/
inductive StringField (entry : String × String) : List Char → Prop
  | spelled {written text : List Char} (hvalue : Spelled entry.2 written)
      (htext : NamedField (entry.1, written) text) : StringField entry text

/-- An element that is a string. -/
inductive StringElement (name : String) : List Char → Prop
  | spelled {written text : List Char} (hname : Spelled name written)
      (htext : ElementText written text) : StringElement name text

/-- Where each item takes a character at least, there are no more items than characters. -/
theorem Separated.length_le {item : α → List Char → Prop} {items : List α} {text : List Char}
    (hitem : ∀ first text, item first text → 0 < text.length) (htext : Separated item items text) :
    items.length ≤ text.length := by
  induction htext with
  | last hfirst => exact hitem _ _ hfirst
  | more _ _ ih =>
    simp only [List.length_cons, List.length_append]
    omega

theorem NamedField.length_pos {field : String × List Char} {text : List Char}
    (htext : NamedField field text) : 0 < text.length := by
  obtain ⟨-, ⟨-, -, -, -⟩⟩ := htext
  simp

theorem NamedField.length_le {field : String × List Char} {text : List Char}
    (htext : NamedField field text) : field.2.length ≤ text.length := by
  obtain ⟨-, ⟨-, -, -, -⟩⟩ := htext
  simp only [List.length_append, List.length_cons]
  omega

theorem StringField.length_pos {entry : String × String} {text : List Char}
    (htext : StringField entry text) : 0 < text.length := by
  obtain ⟨-, htext⟩ := htext
  exact htext.length_pos

namespace Reader

/-- A field is read up to its value, of which the blanks around it are left. -/
theorem exists_of_namedField {field : String × List Char} {text before : List Char} (first : Bool)
    (htext : NamedField field text) (hbefore : Blanks before) (rest : List Char) :
    ∃ fromName fromColon blanks after, Blanks blanks ∧ Blanks after ∧
      hasField first (before ++ (separator first ++ (text ++ rest))) = .ok (true, fromName) ∧
      stringHere fromName = .ok (field.1, fromColon) ∧
      colon fromColon = .ok ((), blanks ++ (field.2 ++ (after ++ rest))) := by
  obtain ⟨hname, ⟨hbeforeName, hafterName, hbeforeValue, hafter⟩⟩ := htext
  simp only [List.append_assoc, List.cons_append]
  refine ⟨_, _, _, _, hbeforeValue, hafter, hasField_eq_true hbefore hbeforeName, ?_,
    colon_eq hafterName⟩
  have hstring := stringHere_eq (.quotes hname)
  simp only [quotes, List.append_assoc, List.cons_append, List.nil_append] at hstring
  exact hstring _

/-- What stands between brackets is read, and the brackets are passed over. -/
theorem framed_eq {body : Reader α} {inner rest : List Char} {opening closing : Char} {value : α}
    (f : α → β) (hclosing : Skip.isBlank closing = false)
    (hbody : body (inner ++ closing :: rest) = .ok (value, closing :: rest)) :
    (do
      advance
      let value ← body
      close closing
      return f value : Reader β) (opening :: (inner ++ [closing]) ++ rest) =
        .ok (f value, rest) := by
  rw [List.cons_append, List.append_assoc, bind_eq_of_ok (show advance _ = .ok ((), _) from rfl)]
  rw [List.tail_cons, List.singleton_append, bind_eq_of_ok hbody,
    bind_eq_of_ok (close_eq hclosing)]
  rfl

/-! ### Objects of strings -/

section Strings

variable {put : β → String → String → β} {collection : β} {entries : List (String × String)}
  {text rest : List Char}

theorem readStrings_end {fuel : Nat} {first : Bool} {blanks : List Char} (hblanks : Blanks blanks) :
    readStrings put (fuel + 1) first collection (blanks ++ '\x7d' :: rest) =
      .ok (collection, '\x7d' :: rest) := by
  rw [readStrings, bind_eq_of_ok (hasField_eq_false hblanks), if_neg Bool.false_ne_true]
  rfl

/-- One entry is put into the collection, and the entries behind it are read with less fuel. -/
theorem readStrings_field {entry : String × String} (htext : StringField entry text) {fuel : Nat}
    {first : Bool} {before : List Char} (hbefore : Blanks before) (hends : EndsValue rest) :
    ∃ blanks, Blanks blanks ∧
      readStrings put (fuel + 1) first collection (before ++ (separator first ++ (text ++ rest))) =
        readStrings put fuel false (put collection entry.1 entry.2) (blanks ++ rest) := by
  obtain ⟨hvalue, hfield⟩ := htext
  obtain ⟨fromName, fromColon, beforeValue, after, hbeforeValue, hafter, hhas, hname, hcolon⟩ :=
    exists_of_namedField first hfield hbefore rest
  have hstring := takes_string hvalue "a string" hbeforeValue (hends.blanks_append hafter)
  refine ⟨after, hafter, ?_⟩
  rw [readStrings, bind_eq_of_ok hhas, if_pos rfl, bind_eq_of_ok hname, bind_eq_of_ok hcolon,
    bind_eq_of_ok hstring]

theorem readStrings_eq (htext : Separated StringField entries text) {fuel : Nat} {first : Bool}
    {before : List Char} (hfuel : entries.length < fuel) (hbefore : Blanks before) :
    readStrings put fuel first collection
        (before ++ (separator first ++ (text ++ '\x7d' :: rest))) =
      .ok (entries.foldl (fun collection entry ↦ put collection entry.1 entry.2) collection,
        '\x7d' :: rest) := by
  induction htext generalizing fuel first collection before with
  | last hfirst =>
    obtain ⟨fuel, rfl⟩ : ∃ left, fuel = left + 2 := ⟨fuel - 2, by simp at hfuel; omega⟩
    obtain ⟨blanks, hblanks, hread⟩ := readStrings_field hfirst hbefore (endsValue_brace rest)
    rw [hread, readStrings_end hblanks]
    rfl
  | more hfirst _ ih =>
    obtain ⟨fuel, rfl⟩ : ∃ left, fuel = left + 1 := ⟨fuel - 1, by omega⟩
    obtain ⟨blanks, hblanks, hread⟩ := readStrings_field hfirst hbefore (endsValue_comma _)
    rw [List.append_assoc, List.cons_append, hread]
    exact ih (by simpa using hfuel) hblanks

/-- An object of strings is read entry by entry. -/
theorem takes_strings (start : β) (htext : Bracketed StringField '\x7b' '\x7d' entries text) :
    (strings start put).Takes text
      (entries.foldl (fun collection entry ↦ put collection entry.1 entry.2) start) := by
  intro blanks rest hblanks hends
  -- Whatever stands between the braces is read up to the closing one.
  have hframe {inner : List Char} {collection : β}
      (hread : readStrings put ((inner ++ '\x7d' :: rest).length + 1) true start
        (inner ++ '\x7d' :: rest) = .ok (collection, '\x7d' :: rest)) :
      strings start put (blanks ++ ('\x7b' :: (inner ++ ['\x7d']) ++ rest)) =
        .ok (collection, rest) := by
    rw [strings, List.cons_append, bind_eq_of_ok (peek_eq hblanks (by decide)), if_pos rfl]
    exact framed_eq id (by decide) hread
  cases htext with
  | empty hinner => exact hframe (readStrings_end hinner)
  | @items entries text hitems =>
    have hlength := hitems.length_le fun _ _ htext ↦ htext.length_pos
    refine hframe ?_
    exact readStrings_eq hitems (by simp; omega) blanks_nil

end Strings

end Reader

/-! ### Arrays and objects of values -/

/-- Texts of items are texts of what the items stand for. -/
theorem Bracketed.map {item : α → List Char → Prop} {other : β → List Char → Prop} (f : α → β)
    {opening closing : Char} {items : List α} {text : List Char}
    (htext : Bracketed item opening closing items text)
    (hitem : ∀ first ∈ items, ∀ text, item first text → other (f first) text) :
    Bracketed other opening closing (items.map f) text := by
  cases htext with
  | empty hblanks => exact .empty hblanks
  | items hitems =>
    refine .items ?_
    induction hitems with
    | last hfirst => exact .last (hitem _ List.mem_cons_self _ hfirst)
    | more hfirst _ ih =>
      exact .more (hitem _ List.mem_cons_self _ hfirst)
        (ih fun other hother ↦ hitem other (List.mem_cons_of_mem _ hother))

namespace Value

open Reader

/-- An element of an array that is read as a value, with fuel for its characters. -/
inductive ElementRead (depth : Nat) (value : Value) : List Char → Prop
  | padded {element text : List Char} (htext : ElementText element text)
      (hhead : ∃ c more, element = c :: more ∧ Skip.isBlank c = false ∧ c ≠ ']')
      (htakes : ∀ ⦃fuel⦄, element.length ≤ fuel → (read fuel depth).Takes element value) :
      ElementRead depth value text

/-- A field of an object whose value is read, with fuel for its characters. -/
inductive FieldRead (depth : Nat) (field : String × Value) : List Char → Prop
  | named {value text : List Char} (htext : NamedField (field.1, value) text)
      (htakes : ∀ ⦃fuel⦄, value.length ≤ fuel → (read fuel depth).Takes value field.2) :
      FieldRead depth field text

section Elements

variable {depth : Nat} {first : Bool} {elements values : List Value} {value : Value}
  {text before blanks rest : List Char}

theorem readElements_end {fuel : Nat} (hblanks : Blanks blanks) :
    readElements (fuel + 1) depth first elements (blanks ++ ']' :: rest) =
      .ok (elements.reverse, ']' :: rest) := by
  rw [readElements, bind_eq_of_ok (hasElement_eq_false hblanks), if_neg Bool.false_ne_true]
  rfl

/-- One element is read, and those behind it are read with less fuel. -/
theorem readElements_element {fuel : Nat} (htext : ElementRead depth value text)
    (hfuel : text.length ≤ fuel) (hbefore : Blanks before) (hends : EndsValue rest) :
    ∃ blanks, Blanks blanks ∧
      readElements (fuel + 1) depth first elements (before ++ (separator first ++ (text ++ rest))) =
        readElements fuel depth false (value :: elements) (blanks ++ rest) := by
  obtain @⟨_, _, ⟨hpad, hafter⟩, ⟨c, more, rfl, hblank, hbracket⟩, htakes⟩ := htext
  rename_i pad after
  have hread : read fuel depth (c :: more ++ (after ++ rest)) = .ok (value, after ++ rest) := by
    refine htakes ?_ blanks_nil (hends.blanks_append hafter)
    simp only [List.length_append] at hfuel
    omega
  refine ⟨after, hafter, ?_⟩
  rw [List.append_assoc, List.append_assoc, List.cons_append, readElements,
    bind_eq_of_ok (hasElement_eq_true hbefore hpad hblank hbracket), if_pos rfl,
    ← List.cons_append, bind_eq_of_ok hread]

theorem ElementRead.length_pos (htext : ElementRead depth value text) : 0 < text.length := by
  obtain @⟨_, _, ⟨-, -⟩, ⟨c, more, rfl, -⟩, -⟩ := htext
  simp

theorem readElements_eq (htext : Separated (ElementRead depth) values text) {fuel : Nat}
    (hfuel : text.length < fuel) (hbefore : Blanks before) :
    readElements fuel depth first elements
        (before ++ (separator first ++ (text ++ ']' :: rest))) =
      .ok (elements.reverse ++ values, ']' :: rest) := by
  induction htext generalizing fuel first elements before with
  | @last value text hfirst =>
    have hsome := hfirst.length_pos
    obtain ⟨fuel, rfl⟩ : ∃ left, fuel = left + 2 := ⟨fuel - 2, by omega⟩
    have hfits : text.length ≤ fuel + 1 := by omega
    obtain ⟨blanks, hblanks, hread⟩ :=
      readElements_element hfirst hfits hbefore (endsValue_bracket rest)
    rw [hread, readElements_end hblanks, List.reverse_cons]
  | @more value values text others hfirst _ ih =>
    simp only [List.length_append, List.length_cons] at hfuel
    obtain ⟨fuel, rfl⟩ : ∃ left, fuel = left + 1 := ⟨fuel - 1, by omega⟩
    have hfits : text.length ≤ fuel := by omega
    obtain ⟨blanks, hblanks, hread⟩ :=
      readElements_element hfirst hfits hbefore (endsValue_comma _)
    rw [List.append_assoc, List.cons_append, hread]
    exact (ih (by omega) hblanks).trans (by simp)

/-- What is read element by element is read as an array. -/
theorem takes_elements {fuel : Nat} (hdepth : 0 < depth)
    (htext : Bracketed (ElementRead depth) '[' ']' values text) (hfuel : text.length ≤ fuel) :
    (read fuel (depth + 1)).Takes text (.array values) := by
  intro blanks rest hblanks _
  -- Whatever stands between the brackets is read up to the closing one.
  have hframe {inner : List Char} {fuel : Nat}
      (hread : readElements fuel depth true [] (inner ++ ']' :: rest) =
        .ok (values, ']' :: rest)) :
      read (fuel + 1) (depth + 1) (blanks ++ ('[' :: (inner ++ [']']) ++ rest)) =
        .ok (.array values, rest) := by
    rw [read, List.cons_append, bind_eq_of_ok (peek_eq hblanks (by decide))]
    change (if depth + 1 ≤ 1 then _ else _ : Reader Value) _ = _
    rw [if_neg (by omega)]
    exact framed_eq Value.array (by decide) hread
  cases htext with
  | empty hinner =>
    obtain ⟨fuel, rfl⟩ : ∃ left, fuel = left + 2 := ⟨fuel - 2, by simp at hfuel; omega⟩
    exact hframe (readElements_end hinner)
  | items hitems =>
    simp only [List.length_append, List.length_cons] at hfuel
    obtain ⟨fuel, rfl⟩ : ∃ left, fuel = left + 1 := ⟨fuel - 1, by omega⟩
    exact hframe (readElements_eq hitems (by omega) blanks_nil)

end Elements

section Fields

variable {depth : Nat} {first : Bool} {field : String × Value}
  {fields values : List (String × Value)} {text before blanks rest : List Char}

theorem FieldRead.length_pos (htext : FieldRead depth field text) : 0 < text.length := by
  obtain ⟨htext, -⟩ := htext
  exact htext.length_pos

theorem readFields_end {fuel : Nat} (hblanks : Blanks blanks) :
    readFields (fuel + 1) depth first fields (blanks ++ '\x7d' :: rest) =
      .ok (fields.reverse, '\x7d' :: rest) := by
  rw [readFields, bind_eq_of_ok (hasField_eq_false hblanks), if_neg Bool.false_ne_true]
  rfl

/-- One field is read, and those behind it are read with less fuel. -/
theorem readFields_field {fuel : Nat} (htext : FieldRead depth field text)
    (hfuel : text.length ≤ fuel) (hbefore : Blanks before) (hends : EndsValue rest) :
    ∃ blanks, Blanks blanks ∧
      readFields (fuel + 1) depth first fields (before ++ (separator first ++ (text ++ rest))) =
        readFields fuel depth false (field :: fields) (blanks ++ rest) := by
  obtain @⟨value, _, htext, htakes⟩ := htext
  have hfits := htext.length_le
  obtain ⟨fromName, fromColon, beforeValue, after, hbeforeValue, hafter, hhas, hname, hcolon⟩ :=
    exists_of_namedField first htext hbefore rest
  have hread := htakes (hfits.trans hfuel) hbeforeValue (hends.blanks_append hafter)
  refine ⟨after, hafter, ?_⟩
  rw [readFields, bind_eq_of_ok hhas, if_pos rfl, bind_eq_of_ok hname, bind_eq_of_ok hcolon,
    bind_eq_of_ok hread]

theorem readFields_eq (htext : Separated (FieldRead depth) values text) {fuel : Nat}
    (hfuel : text.length < fuel) (hbefore : Blanks before) :
    readFields fuel depth first fields
        (before ++ (separator first ++ (text ++ '\x7d' :: rest))) =
      .ok (fields.reverse ++ values, '\x7d' :: rest) := by
  induction htext generalizing fuel first fields before with
  | @last field text hfirst =>
    have hsome := hfirst.length_pos
    obtain ⟨fuel, rfl⟩ : ∃ left, fuel = left + 2 := ⟨fuel - 2, by omega⟩
    have hfits : text.length ≤ fuel + 1 := by omega
    obtain ⟨blanks, hblanks, hread⟩ := readFields_field hfirst hfits hbefore (endsValue_brace rest)
    rw [hread, readFields_end hblanks, List.reverse_cons]
  | @more field values text others hfirst _ ih =>
    simp only [List.length_append, List.length_cons] at hfuel
    obtain ⟨fuel, rfl⟩ : ∃ left, fuel = left + 1 := ⟨fuel - 1, by omega⟩
    have hfits : text.length ≤ fuel := by omega
    obtain ⟨blanks, hblanks, hread⟩ := readFields_field hfirst hfits hbefore (endsValue_comma _)
    rw [List.append_assoc, List.cons_append, hread]
    exact (ih (by omega) hblanks).trans (by simp)

/-- What is read field by field is read as an object. -/
theorem takes_fields {fuel : Nat} (hdepth : 0 < depth)
    (htext : Bracketed (FieldRead depth) '\x7b' '\x7d' values text) (hfuel : text.length ≤ fuel) :
    (read fuel (depth + 1)).Takes text (.object values) := by
  intro blanks rest hblanks _
  -- Whatever stands between the braces is read up to the closing one.
  have hframe {inner : List Char} {fuel : Nat}
      (hread : readFields fuel depth true [] (inner ++ '\x7d' :: rest) =
        .ok (values, '\x7d' :: rest)) :
      read (fuel + 1) (depth + 1) (blanks ++ ('\x7b' :: (inner ++ ['\x7d']) ++ rest)) =
        .ok (.object values, rest) := by
    rw [read, List.cons_append, bind_eq_of_ok (peek_eq hblanks (by decide))]
    change (if depth + 1 ≤ 1 then _ else _ : Reader Value) _ = _
    rw [if_neg (by omega)]
    exact framed_eq Value.object (by decide) hread
  cases htext with
  | empty hinner =>
    obtain ⟨fuel, rfl⟩ : ∃ left, fuel = left + 2 := ⟨fuel - 2, by simp at hfuel; omega⟩
    exact hframe (readFields_end hinner)
  | items hitems =>
    simp only [List.length_append, List.length_cons] at hfuel
    obtain ⟨fuel, rfl⟩ : ∃ left, fuel = left + 1 := ⟨fuel - 1, by omega⟩
    exact hframe (readFields_eq hitems (by omega) blanks_nil)

end Fields

/-! ### Strings and lists of strings -/

theorem read_string {name : String} {written : List Char} (hname : Spelled name written)
    {fuel : Nat} (hfuel : 0 < fuel) (depth : Nat) :
    (read fuel depth).Takes written (.string name) := by
  intro blanks rest hblanks _
  obtain ⟨fuel, rfl⟩ : ∃ left, fuel = left + 1 := ⟨fuel - 1, by omega⟩
  rw [read, bind_eq_of_ok (peek_spelled hname hblanks rest)]
  change (stringHere >>= fun text ↦ pure (Value.string text)) (written ++ rest) = _
  rw [bind_eq_of_ok (stringHere_eq hname rest)]
  rfl

/-- With fuel for the text, a value is read from all the fuel that a reader has. -/
theorem takes_reader {depth : Nat} {value : Value} {text : List Char}
    (htakes : ∀ ⦃fuel⦄, text.length ≤ fuel → (read fuel depth).Takes text value) :
    (reader depth).Takes text value := by
  intro blanks rest hblanks hends
  refine htakes ?_ hblanks hends
  simp only [List.length_append]
  omega

theorem takes_string {name : String} {written : List Char} (hname : Spelled name written)
    (depth : Nat) : (reader depth).Takes written (.string name) := by
  intro blanks rest hblanks hends
  exact read_string hname (by omega) depth hblanks hends

/-- A list of strings is read as an array of them. -/
theorem takes_array {names : List String} {text : List Char}
    (htext : Bracketed StringElement '[' ']' names text) {depth : Nat} (hdepth : 1 < depth) :
    (reader depth).Takes text (.array (names.map .string)) := by
  obtain ⟨depth, rfl⟩ : ∃ left, depth = left + 1 := ⟨depth - 1, by omega⟩
  refine takes_reader fun fuel hfuel ↦ takes_elements (by omega) ?_ hfuel
  refine htext.map Value.string fun name _ element helement ↦ ?_
  obtain ⟨hname, hpadded⟩ := helement
  refine .padded hpadded ?_ fun fuel hfuel ↦ read_string hname ?_ depth
  · obtain ⟨-⟩ := hname
    exact ⟨_, _, rfl, by decide, by decide⟩
  · obtain ⟨-⟩ := hname
    exact lt_of_lt_of_le (by simp [quotes]) hfuel

end Value

/-! ### Records -/

/-- What an object has to say about one field of a record. -/
structure Clause where
  name : String
  /-- The field may be left out. -/
  Omissible : Prop
  /-- The texts of the value. -/
  Written : List Char → Prop

/-- Fields of an object list clauses of a record, in any order and none of them twice. Other fields
may stand among them. -/
structure Lists (clauses : List Clause) (fields : List (String × List Char)) : Prop where
  once : fields.Pairwise fun first second ↦
    first.1 ∈ clauses.map Clause.name → first.1 ≠ second.1
  written : ∀ clause ∈ clauses, ∀ text, (clause.name, text) ∈ fields → clause.Written text
  others : ∀ field ∈ fields, field.1 ∉ clauses.map Clause.name → ValueText field.2

/-- The fields list every clause that may not be left out. -/
structure Describes (clauses : List Clause) (fields : List (String × List Char)) : Prop
    extends Lists clauses fields where
  present : ∀ clause ∈ clauses, clause.Omissible ∨ clause.name ∈ fields.map Prod.fst

theorem Lists.tail {clauses : List Clause} {field : String × List Char}
    {fields : List (String × List Char)} (hlists : Lists clauses (field :: fields)) :
    Lists clauses fields where
  once := (List.pairwise_cons.mp hlists.once).2
  written clause hclause text htext :=
    hlists.written clause hclause text (List.mem_cons_of_mem _ htext)
  others other hother := hlists.others other (List.mem_cons_of_mem _ hother)

/-- The texts of a record. -/
inductive RecordText (clauses : List Clause) : List Char → Prop
  | object {fields : List (String × List Char)} {text : List Char}
      (htext : Bracketed NamedField '\x7b' '\x7d' fields text)
      (hfields : Describes clauses fields) : RecordText clauses text

theorem RecordText.beginsOtherThanNull {clauses : List Clause} {text : List Char}
    (htext : RecordText clauses text) : Reader.BeginsOtherThanNull text := by
  obtain ⟨htext, -⟩ := htext
  exact Reader.beginsOtherThanNull_of_bracketed (by decide) (by decide) htext

namespace Shape

open Reader

/-- A slot reads the texts of a clause: it takes them for the record in which one more field has
been read. What has been read is told by the names of the fields. -/
structure SlotFollows (after : List String → α) (slot : Slot α) (clause : Clause) : Prop where
  name_eq : slot.name = clause.name
  not_omissible : slot.required = true → ¬ clause.Omissible
  takes : ∀ text, clause.Written text → ∀ seen,
    (slot.read (after seen)).Takes text (after (slot.name :: seen))

/-- A shape reads the clauses of a record, slot by slot, and ends with the record. -/
structure Follows (shape : Shape α) (clauses : List Clause) (after : List String → α) (record : α) :
    Prop where
  start : after [] = shape.start
  slots : List.Forall₂ (SlotFollows after) shape.slots clauses
  finish : ∀ seen, (∀ clause ∈ clauses, clause.Omissible ∨ clause.name ∈ seen) →
    after seen = record

/-- The names of the clauses that have been read after some more fields. -/
def seenAfter (clauses : List Clause) : List String → List (String × List Char) → List String
  | seen, [] => seen
  | seen, field :: fields =>
    seenAfter clauses (if field.1 ∈ clauses.map Clause.name then field.1 :: seen else seen) fields

theorem mem_seenAfter {clauses : List Clause} {name : String}
    (hname : name ∈ clauses.map Clause.name) {fields : List (String × List Char)}
    {seen : List String} :
    name ∈ seenAfter clauses seen fields ↔ name ∈ seen ∨ name ∈ fields.map Prod.fst := by
  induction fields generalizing seen with
  | nil => simp [seenAfter]
  | cons field fields ih =>
    rw [seenAfter, ih, List.map_cons, List.mem_cons]
    by_cases hfield : field.1 ∈ clauses.map Clause.name
    · rw [if_pos hfield, List.mem_cons]
      tauto
    · have hne : name ≠ field.1 := fun h ↦ hfield (h ▸ hname)
      rw [if_neg hfield]
      tauto

variable {shape : Shape α} {clauses : List Clause} {after : List String → α} {record : α}

/-- A field finds its slot exactly if it is a clause. -/
theorem find?_cases {slots : List (Slot α)}
    (hslots : List.Forall₂ (SlotFollows after) slots clauses) (name : String) :
    (slots.find? (fun slot ↦ slot.name == name) = none ∧ name ∉ clauses.map Clause.name) ∨
      ∃ slot clause, slots.find? (fun slot ↦ slot.name == name) = some slot ∧
        clause ∈ clauses ∧ clause.name = name ∧ SlotFollows after slot clause := by
  induction hslots with
  | nil => exact Or.inl ⟨rfl, List.not_mem_nil⟩
  | @cons slot clause slots clauses hslot _ ih =>
    by_cases hname : slot.name = name
    · refine Or.inr ⟨slot, clause, ?_, List.mem_cons_self, hslot.name_eq ▸ hname, hslot⟩
      simp [hname]
    · rw [List.find?_cons_of_neg (by simpa using hname)]
      rcases ih with ⟨hnone, hother⟩ | ⟨slot, clause, hsome, hclause, hrest⟩
      · refine Or.inl ⟨hnone, ?_⟩
        rw [List.map_cons, List.mem_cons, not_or]
        exact ⟨fun h ↦ hname (hslot.name_eq.trans h.symm), hother⟩
      · exact Or.inr ⟨slot, clause, hsome, List.mem_cons_of_mem _ hclause, hrest⟩

/-- No field is missing where every clause has been read that may not be left out. -/
theorem firstMissing?_eq_none (hslots : List.Forall₂ (SlotFollows after) shape.slots clauses)
    {seen : List String}
    (hseen : ∀ clause ∈ clauses, clause.Omissible ∨ clause.name ∈ seen) :
    shape.firstMissing? seen = none := by
  unfold firstMissing?
  generalize shape.slots = slots at hslots
  rw [Option.map_eq_none_iff, List.find?_eq_none]
  induction hslots with
  | nil => exact fun slot hslot ↦ absurd hslot List.not_mem_nil
  | @cons slot clause slots clauses hslot _ ih =>
    intro other hother
    rcases List.mem_cons.mp hother with rfl | hother
    · rcases hseen clause List.mem_cons_self with homissible | hname
      · have hrequired : other.required = false := by
          by_contra h
          exact hslot.not_omissible (Bool.not_eq_false _ ▸ h) homissible
        simp [hrequired]
      · simp [hslot.name_eq, hname]
    · exact ih (fun clause hclause ↦ hseen clause (List.mem_cons_of_mem _ hclause)) other hother

theorem readObject_end {fuel : Nat} {first : Bool} {seen : List String} {record : α}
    {blanks rest : List Char} (hmissing : shape.firstMissing? seen = none)
    (hblanks : Blanks blanks) :
    shape.readObject (fuel + 1) first seen record (blanks ++ '\x7d' :: rest) =
      .ok (record, '\x7d' :: rest) := by
  rw [readObject, bind_eq_of_ok (hasField_eq_false hblanks), if_neg Bool.false_ne_true, hmissing]
  rfl

/-- One field is read into the record if it is a clause, and passed over if it is none. -/
theorem readObject_field (hslots : List.Forall₂ (SlotFollows after) shape.slots clauses)
    {field : String × List Char} {fields : List (String × List Char)}
    (hlists : Lists clauses (field :: fields)) {text before rest : List Char}
    (htext : NamedField field text) {fuel : Nat} {first : Bool} {seen : List String}
    (hfresh : field.1 ∈ clauses.map Clause.name → field.1 ∉ seen) (hbefore : Blanks before)
    (hends : EndsValue rest) :
    ∃ blanks, Blanks blanks ∧
      shape.readObject (fuel + 1) first seen (after seen)
          (before ++ (separator first ++ (text ++ rest))) =
        shape.readObject fuel false (seenAfter clauses seen [field])
          (after (seenAfter clauses seen [field])) (blanks ++ rest) := by
  obtain ⟨fromName, fromColon, beforeValue, behind, hbeforeValue, hbehind, hhas, hname, hcolon⟩ :=
    exists_of_namedField first htext hbefore rest
  have hendsValue := hends.blanks_append hbehind
  refine ⟨behind, hbehind, ?_⟩
  rw [readObject, bind_eq_of_ok hhas, if_pos rfl, bind_eq_of_ok hname]
  rcases find?_cases hslots field.1 with ⟨hnone, hunknown⟩ |
    ⟨slot, clause, hsome, hclause, hclauseName, hslot⟩
  · have hvalue := hlists.others field List.mem_cons_self hunknown
    rw [hnone, seenAfter, if_neg hunknown, seenAfter]
    change (colon >>= _) fromColon = _
    rw [bind_eq_of_ok hcolon, bind_eq_of_ok (takes_skip hvalue hbeforeValue hendsValue)]
  · have hknown : field.1 ∈ clauses.map Clause.name := hclauseName ▸ List.mem_map_of_mem hclause
    have hunseen : seen.contains field.1 = false := by simpa using hfresh hknown
    have hwritten : clause.Written field.2 :=
      hlists.written clause hclause field.2 (hclauseName ▸ List.mem_cons_self)
    have hread := hslot.takes field.2 hwritten seen hbeforeValue hendsValue
    rw [hslot.name_eq, hclauseName] at hread
    rw [hsome, seenAfter, if_pos hknown, seenAfter]
    change (if seen.contains field.1 = true then _ else _ : Reader α) fromColon = _
    rw [hunseen, if_neg Bool.false_ne_true, bind_eq_of_ok hcolon, bind_eq_of_ok hread]

/-- The fields are read one after the other, each into the record that those before it have left. -/
theorem readObject_eq (hslots : List.Forall₂ (SlotFollows after) shape.slots clauses)
    {fields : List (String × List Char)} {text rest : List Char}
    (htext : Separated NamedField fields text) (hlists : Lists clauses fields) {fuel : Nat}
    {first : Bool} {seen : List String} {before : List Char}
    (hfresh : ∀ field ∈ fields, field.1 ∈ clauses.map Clause.name → field.1 ∉ seen)
    (hmissing : shape.firstMissing? (seenAfter clauses seen fields) = none)
    (hfuel : fields.length < fuel) (hbefore : Blanks before) :
    shape.readObject fuel first seen (after seen)
        (before ++ (separator first ++ (text ++ '\x7d' :: rest))) =
      .ok (after (seenAfter clauses seen fields), '\x7d' :: rest) := by
  induction htext generalizing fuel first seen before with
  | @last field text hfirst =>
    obtain ⟨fuel, rfl⟩ : ∃ left, fuel = left + 2 := ⟨fuel - 2, by simp at hfuel; omega⟩
    obtain ⟨blanks, hblanks, hread⟩ := readObject_field hslots hlists hfirst
      (hfresh field List.mem_cons_self) hbefore (endsValue_brace rest)
    rw [hread, readObject_end hmissing hblanks]
  | @more field fields text others hfirst _ ih =>
    obtain ⟨fuel, rfl⟩ : ∃ left, fuel = left + 1 := ⟨fuel - 1, by omega⟩
    obtain ⟨blanks, hblanks, hread⟩ := readObject_field hslots hlists hfirst
      (hfresh field List.mem_cons_self) hbefore (endsValue_comma _)
    have hdistinct := (List.pairwise_cons.mp hlists.once).1
    rw [List.append_assoc, List.cons_append, hread]
    refine ih hlists.tail ?_ hmissing (by simpa using hfuel) hblanks
    intro other hother hknown
    have hunseen := hfresh other (List.mem_cons_of_mem _ hother) hknown
    rw [seenAfter, seenAfter]
    by_cases hfield : field.1 ∈ clauses.map Clause.name
    · rw [if_pos hfield, List.mem_cons, not_or]
      exact ⟨(hdistinct other hother hfield).symm, hunseen⟩
    · rwa [if_neg hfield]

/-- A shape reads every text of a record, whatever follows. -/
theorem Follows.reader_eq (hfollows : shape.Follows clauses after record) {text blanks : List Char}
    (htext : RecordText clauses text) (hblanks : Blanks blanks) (rest : List Char) :
    shape.reader (blanks ++ (text ++ rest)) = .ok (record, rest) := by
  obtain @⟨fields, text, htext, hfields⟩ := htext
  have hseen : ∀ clause ∈ clauses, clause.Omissible ∨
      clause.name ∈ seenAfter clauses [] fields := by
    intro clause hclause
    refine (hfields.present clause hclause).imp id fun hname ↦ ?_
    exact (mem_seenAfter (List.mem_map_of_mem hclause)).mpr (Or.inr hname)
  have hmissing := firstMissing?_eq_none hfollows.slots hseen
  have hrecord := hfollows.finish _ hseen
  -- Whatever stands between the braces is read up to the closing one.
  have hframe {inner : List Char}
      (hread : shape.objectReader (inner ++ '\x7d' :: rest) = .ok (record, '\x7d' :: rest)) :
      shape.reader (blanks ++ ('\x7b' :: (inner ++ ['\x7d']) ++ rest)) = .ok (record, rest) := by
    rw [Shape.reader, List.cons_append, bind_eq_of_ok (peek_eq hblanks (by decide))]
    exact framed_eq id (by decide) hread
  cases htext with
  | empty hinner =>
    rw [seenAfter] at hmissing hrecord
    refine hframe ?_
    rw [objectReader, ← hfollows.start, readObject_end hmissing hinner, hrecord]
  | @items fields text hitems =>
    have hlength := hitems.length_le fun _ _ htext ↦ htext.length_pos
    refine hframe ?_
    rw [objectReader, ← hfollows.start, ← hrecord]
    refine readObject_eq hfollows.slots hitems hfields.toLists ?_ hmissing ?_ blanks_nil
    · exact fun _ _ _ ↦ List.not_mem_nil
    · simp
      omega

theorem Follows.takes (hfollows : shape.Follows clauses after record) {text : List Char}
    (htext : RecordText clauses text) : shape.reader.Takes text record :=
  fun _ rest hblanks _ ↦ hfollows.reader_eq htext hblanks rest

end Shape

/-! ### Written records -/

section Written

variable {clauses : List Clause} {fields : List (String × List Char)}

theorem map_fst_eq_of_forall₂
    (hfields : List.Forall₂ (fun clause field ↦ clause.name = field.1 ∧ clause.Written field.2)
      clauses fields) : fields.map Prod.fst = clauses.map Clause.name := by
  induction hfields with
  | nil => rfl
  | cons hfirst _ ih => rw [List.map_cons, List.map_cons, hfirst.1, ih]

theorem written_of_forall₂ (hnodup : (clauses.map Clause.name).Nodup)
    (hfields : List.Forall₂ (fun clause field ↦ clause.name = field.1 ∧ clause.Written field.2)
      clauses fields) {clause : Clause} (hclause : clause ∈ clauses) {text : List Char}
    (htext : (clause.name, text) ∈ fields) : clause.Written text := by
  induction hfields with
  | nil => exact absurd hclause List.not_mem_nil
  | @cons first field clauses fields hfirst hrest ih =>
    obtain ⟨hname, hwritten⟩ := hfirst
    obtain ⟨hfresh, hnodup⟩ := List.nodup_cons.mp hnodup
    have hnames := map_fst_eq_of_forall₂ hrest
    rcases List.mem_cons.mp hclause with rfl | hclause <;>
      rcases List.mem_cons.mp htext with rfl | htext
    · exact hwritten
    · exact absurd (hnames ▸ List.mem_map_of_mem htext) hfresh
    · exact absurd (hname ▸ List.mem_map_of_mem hclause) hfresh
    · exact ih hnodup hclause htext

/-- Fields that give the clauses one by one describe a record. -/
theorem describes_of_forall₂ (hnodup : (clauses.map Clause.name).Nodup)
    (hfields : List.Forall₂ (fun clause field ↦ clause.name = field.1 ∧ clause.Written field.2)
      clauses fields) : Describes clauses fields := by
  have hnames := map_fst_eq_of_forall₂ hfields
  have hdistinct : fields.Pairwise fun first second ↦ first.1 ≠ second.1 :=
    List.pairwise_map.mp (show (fields.map Prod.fst).Nodup from hnames ▸ hnodup)
  refine ⟨⟨?_, ?_, ?_⟩, ?_⟩
  · exact hdistinct.imp fun {first second} hne (_ : first.1 ∈ _) ↦ hne
  · exact fun clause hclause text ↦ written_of_forall₂ hnodup hfields hclause
  · exact fun field hfield hunknown ↦ absurd (hnames ▸ List.mem_map_of_mem hfield) hunknown
  · exact fun clause hclause ↦ Or.inr (hnames ▸ List.mem_map_of_mem hclause)

end Written

section Compact

/-- The texts of items are those of what the items are made from. -/
theorem Bracketed.of_map {item : β → List Char → Prop} {other : α → List Char → Prop} (f : α → β)
    (hitem : ∀ first text, item (f first) text → other first text) {opening closing : Char}
    {items : List α} {text : List Char}
    (htext : Bracketed item opening closing (items.map f) text) :
    Bracketed other opening closing items text := by
  have hseparated {items : List α} {text : List Char} (htext : Separated item (items.map f) text) :
      Separated other items text := by
    induction items generalizing text with
    | nil => cases htext
    | cons first items ih =>
      generalize hrest : items.map f = rest at htext ih
      rw [List.map_cons, hrest] at htext
      cases htext with
      | last hfirst =>
        obtain rfl := List.map_eq_nil_iff.mp hrest
        exact .last (hitem _ _ hfirst)
      | more hfirst hothers => exact .more (hitem _ _ hfirst) (ih hothers)
  generalize hmapped : items.map f = mapped at htext
  cases htext with
  | empty hblanks =>
    obtain rfl := List.map_eq_nil_iff.mp hmapped
    exact .empty hblanks
  | items hitems => exact .items (hseparated (hmapped ▸ hitems))

namespace Value

/-- A field as it is written, with any blanks around its parts. -/
theorem namedField_padded {before pad after : List Char} (hbefore : Blanks before)
    (hpad : Blanks pad) (hafter : Blanks after) (name : String) (text : List Char) :
    NamedField (name, text)
      (before ++ (stringChars name ++ ':' :: (pad ++ (text ++ after)))) := by
  obtain ⟨body, hbody, hwritten⟩ : ∃ body, StringText body name.toList ∧
      stringChars name = quotes body := by
    have hspelled := spelled_stringChars name
    generalize stringChars name = written at hspelled
    obtain ⟨hbody⟩ := hspelled
    exact ⟨_, hbody, rfl⟩
  have htext := @FieldText.padded (body, text) before [] pad after hbefore blanks_nil hpad hafter
  rw [hwritten]
  refine .named hbody ?_
  simpa [quotes] using htext

theorem namedField_stringChars (name : String) (text : List Char) :
    NamedField (name, text) (stringChars name ++ ':' :: text) := by
  simpa using namedField_padded blanks_nil blanks_nil blanks_nil name text

/-- Texts with commas between them, a lead before each one and a trail behind the last. -/
def listed (lead trail : List Char) : List (List Char) → List Char
  | [] => trail
  | [text] => lead ++ (text ++ trail)
  | text :: others => lead ++ (text ++ ',' :: listed lead trail others)

/-- Where lead and trail belong to the items, what is listed between brackets are the items. -/
theorem bracketed_listed {item : α → List Char → Prop} {lead trail : List Char}
    {written : α → List Char} {items : List α} (opening closing : Char) (htrail : Blanks trail)
    (hitem : ∀ first ∈ items, item first (lead ++ written first) ∧
      item first (lead ++ (written first ++ trail))) :
    Bracketed item opening closing items
      (opening :: (listed lead trail (items.map written) ++ [closing])) := by
  have hseparated {first : α} {items : List α}
      (hitem : ∀ other ∈ first :: items, item other (lead ++ written other) ∧
        item other (lead ++ (written other ++ trail))) :
      Separated item (first :: items) (listed lead trail ((first :: items).map written)) := by
    induction items generalizing first with
    | nil => exact .last (hitem first List.mem_cons_self).2
    | cons second items ih =>
      have hmore := Separated.more (hitem first List.mem_cons_self).1
        (ih fun other hother ↦ hitem other (List.mem_cons_of_mem _ hother))
      rwa [List.append_assoc] at hmore
  cases items with
  | nil => exact .empty htrail
  | cons first items => exact .items (hseparated hitem)

theorem compactElements_eq (elements : List Value) :
    compactElements elements = listed [] [] (elements.map compactChars) ++ [']'] := by
  induction elements with
  | nil => rw [compactElements, List.map_nil, listed, List.nil_append]
  | cons first elements ih =>
    cases elements with
    | nil => simp [compactElements, listed]
    | cons second elements =>
      rw [compactElements, ih]
      · simp [listed]
      · simp

theorem compactFields_eq (fields : List (String × Value)) :
    compactFields fields = listed [] []
      (fields.map fun field ↦ stringChars field.1 ++ ':' :: field.2.compactChars) ++ ['\x7d'] := by
  induction fields with
  | nil => rw [compactFields, List.map_nil, listed, List.nil_append]
  | cons first fields ih =>
    cases fields with
    | nil => simp [compactFields, listed]
    | cons second fields =>
      rw [compactFields, ih]
      · simp [listed]
      · simp

/-- An object is written with the texts of its fields between the braces. -/
theorem bracketed_object (fields : List (String × Value)) :
    Bracketed NamedField '{' '}' (fields.map fun field ↦ (field.1, field.2.compactChars))
      (compactChars (.object fields)) := by
  have htext := @bracketed_listed _ NamedField [] []
    (fun field ↦ stringChars field.1 ++ ':' :: field.2)
    (fields.map fun field ↦ (field.1, field.2.compactChars)) '{' '}' blanks_nil
  rw [compactChars, compactFields_eq]
  rw [List.map_map] at htext
  refine htext fun field _ ↦ ?_
  simpa using namedField_stringChars field.1 field.2

/-- A record is written as an object that gives its clauses one by one. -/
theorem recordText_object {clauses : List Clause} {fields : List (String × Value)}
    (hnodup : (clauses.map Clause.name).Nodup)
    (hfields : List.Forall₂
      (fun clause field ↦ clause.name = field.1 ∧ clause.Written field.2.compactChars)
      clauses fields) : RecordText clauses (compactChars (.object fields)) := by
  refine .object (bracketed_object fields) (describes_of_forall₂ hnodup ?_)
  exact List.forall₂_map_right_iff.mpr hfields

/-- An array of strings is written with the strings between the brackets. -/
theorem bracketed_array (names : List String) :
    Bracketed StringElement '[' ']' names (compactChars (.array (names.map .string))) := by
  have htext := @bracketed_listed _ StringElement [] [] stringChars names '[' ']' blanks_nil
  have hchars : compactChars ∘ Value.string = stringChars := by
    funext name
    rw [Function.comp_apply, compactChars]
  rw [compactChars, compactElements_eq, List.map_map, hchars]
  refine htext fun name _ ↦ ?_
  have helement : StringElement name (stringChars name) := by
    refine .spelled (spelled_stringChars name) ?_
    simpa using @ElementText.padded (stringChars name) [] [] blanks_nil blanks_nil
  simpa using helement

/-- An object of strings is written entry by entry. -/
theorem bracketed_strings (entries : List (String × String)) :
    Bracketed StringField '{' '}' entries
      (compactChars (.object (entries.map fun entry ↦ (entry.1, .string entry.2)))) := by
  have htext := bracketed_object (entries.map fun entry ↦ (entry.1, .string entry.2))
  rw [List.map_map] at htext
  exact htext.of_map _ fun entry text hfield ↦ .spelled (spelled_stringChars entry.2) hfield

end Value

end Compact

end FlatTables.Json
