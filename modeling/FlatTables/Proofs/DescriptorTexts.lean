import FlatTables.Proofs.JsonRecords
import FlatTables.Proofs.Payloads
import FlatTables.Query.Descriptor

/-!
# The texts of a query

A query may be told by many descriptors (`Query.DescribedBy`). Its clauses and the fields of its
filter, its join and its ordering come in any order, with other fields among them. An absent clause
is left out or `null`, the projection of all columns and the ascending direction may be left out,
and the payload lists its assignments in any order. Blanks stand anywhere, and every string may be
spelled in any way.

The written form of a query is one of these descriptors, and all of them are read as the query
(`Query.ofText_described`). More generally, a descriptor whose payload assigns to a column several
times is read as the query with the payload that these assignments make
(`Query.ofText_eq_of_descriptorText`).
-/

set_option autoImplicit false
set_option relaxedAutoImplicit false

namespace FlatTables

open Json Json.Reader

/-! ### The texts of clauses -/

namespace Filter

/-- What the text of a filter says. -/
def clauses (filter : Filter) : List Clause := [
  ⟨"column", False, Spelled filter.column⟩,
  ⟨"value", False, Spelled filter.value⟩]

end Filter

namespace Join

/-- What the text of a join says. -/
def clauses (join : Join) : List Clause := [
  ⟨"column", False, Spelled join.column⟩,
  ⟨"table", False, Spelled join.table⟩,
  ⟨"other_column", False, Spelled join.otherColumn⟩]

end Join

namespace OrderBy

/-- What the text of an ordering says. -/
def clauses (order : OrderBy) : List Clause := [
  ⟨"column", False, Spelled order.column⟩,
  ⟨"direction", order.direction = .ascending, Spelled order.direction.name⟩]

end OrderBy

namespace Projection

/-- The texts of a projection: a star or a list of names. -/
inductive Written : Projection → List Char → Prop
  | all {text : List Char} (htext : Spelled "*" text) : Written .all text
  | columns {names : List String} {text : List Char}
      (htext : Bracketed StringElement '[' ']' names text) : Written (.columns names) text

end Projection

namespace Query

/-- What a descriptor says about a query, whose payload is told by a list of assignments. -/
def clauses (query : Query) (assignments : Option (List (String × String))) : List Clause := [
  ⟨"operation", False, Spelled query.operation.name⟩,
  ⟨"table", query.table = none, OptionText Spelled query.table⟩,
  ⟨"projection", query.projection = .all, query.projection.Written⟩,
  ⟨"filter", query.filter = none,
    OptionText (fun filter ↦ RecordText filter.clauses) query.filter⟩,
  ⟨"join", query.join = none, OptionText (fun join ↦ RecordText join.clauses) query.join⟩,
  ⟨"sort", query.sort = none, OptionText (fun order ↦ RecordText order.clauses) query.sort⟩,
  ⟨"payload", assignments = none,
    OptionText (Bracketed StringField '\x7b' '\x7d') assignments⟩]

/-- The descriptors of a query, whose payload is told by a list of assignments. -/
inductive DescriptorText (query : Query) (assignments : Option (List (String × String))) :
    List Char → Prop
  | padded {before text after : List Char} (hbefore : Blanks before)
      (htext : RecordText (query.clauses assignments) text) (hafter : Blanks after) :
      DescriptorText query assignments (before ++ (text ++ after))

end Query

/-! ### Slots -/

namespace Json.Shape

variable {α β γ : Type}

/-- The value of a field that has been read, and the value that it has before that. -/
def known (seen : List String) (name : String) (value start : β) : β :=
  if name ∈ seen then value else start

theorem known_eq {seen : List String} {name : String} {value start : β}
    (h : value = start ∨ name ∈ seen) : known seen name value start = value := by
  unfold known
  by_cases hname : name ∈ seen
  · rw [if_pos hname]
  · rw [if_neg hname, h.resolve_right hname]

variable {after : List String → α} {name : String}

/-- A slot reads a value and puts it into the record. -/
theorem slotFollows {inner : Reader β} (put : α → β → α) {required : Bool} {clause : Clause}
    {value : β} (hname : name = clause.name) (hrequired : required = true → ¬ clause.Omissible)
    (htakes : ∀ text, clause.Written text → inner.Takes text value)
    (hput : ∀ seen, put (after seen) value = after (name :: seen)) :
    SlotFollows after ⟨name, required, fun record ↦ do return put record (← inner)⟩ clause := by
  refine ⟨hname, hrequired, fun text htext seen ↦ ?_⟩
  rw [← hput]
  exact (htakes text htext).map (put (after seen))

theorem slotFollows_string (put : α → String → α) {text : String}
    (hput : ∀ seen, put (after seen) text = after (name :: seen)) :
    SlotFollows after
      ⟨name, true, fun record ↦ do return put record (← Reader.string "a string")⟩
      ⟨name, False, Spelled text⟩ :=
  slotFollows put rfl (fun _ ↦ id) (fun _ htext ↦ Reader.takes_string htext "a string") hput

theorem slotFollows_nullable {inner : Reader β} (put : α → Option β → α)
    {written : γ → List Char → Prop} {option : Option γ} (f : γ → β)
    (hinner : ∀ {value : γ} {text : List Char}, written value text → inner.Takes text (f value))
    (hhead : ∀ {value : γ} {text : List Char}, written value text →
      Reader.BeginsOtherThanNull text)
    (hput : ∀ seen, put (after seen) (option.map f) = after (name :: seen)) :
    SlotFollows after
      ⟨name, false, fun record ↦ do return put record (← Reader.nullable inner)⟩
      ⟨name, option = none, OptionText written option⟩ :=
  slotFollows put rfl (fun h ↦ absurd h Bool.false_ne_true)
    (fun _ htext ↦ Reader.takes_nullable f hinner hhead htext) hput

end Json.Shape

open Json.Shape

namespace Filter

/-- The filter of which some fields have been read. -/
def readUpTo (filter : Filter) (seen : List String) : Filter :=
  ⟨known seen "column" filter.column "", known seen "value" filter.value ""⟩

theorem follows (filter : Filter) : shape.Follows filter.clauses filter.readUpTo filter := by
  constructor
  · rfl
  · refine .cons ?_ (.cons ?_ .nil)
    · exact slotFollows_string (fun (filter : Filter) column ↦ { filter with column })
        fun seen ↦ by simp [readUpTo, known]
    · exact slotFollows_string (fun (filter : Filter) value ↦ { filter with value })
        fun seen ↦ by simp [readUpTo, known]
  · intro seen hseen
    obtain ⟨hcolumn, hvalue⟩ : "column" ∈ seen ∧ "value" ∈ seen := by
      simpa [clauses] using hseen
    rw [readUpTo, known_eq (Or.inr hcolumn), known_eq (Or.inr hvalue)]

end Filter

namespace Join

/-- The join of which some fields have been read. -/
def readUpTo (join : Join) (seen : List String) : Join :=
  ⟨known seen "column" join.column "", known seen "table" join.table "",
    known seen "other_column" join.otherColumn ""⟩

theorem follows (join : Join) : shape.Follows join.clauses join.readUpTo join := by
  constructor
  · rfl
  · refine .cons ?_ (.cons ?_ (.cons ?_ .nil))
    · exact slotFollows_string (fun (join : Join) column ↦ { join with column })
        fun seen ↦ by simp [readUpTo, known]
    · exact slotFollows_string (fun (join : Join) table ↦ { join with table })
        fun seen ↦ by simp [readUpTo, known]
    · exact slotFollows_string (fun (join : Join) otherColumn ↦ { join with otherColumn })
        fun seen ↦ by simp [readUpTo, known]
  · intro seen hseen
    obtain ⟨hcolumn, htable, hother⟩ :
        "column" ∈ seen ∧ "table" ∈ seen ∧ "other_column" ∈ seen := by
      simpa [clauses] using hseen
    rw [readUpTo, known_eq (Or.inr hcolumn), known_eq (Or.inr htable), known_eq (Or.inr hother)]

end Join

theorem Direction.takes_reader (direction : Direction) {text : List Char}
    (htext : Spelled direction.name text) : Direction.reader.Takes text direction := by
  refine Reader.takes_variant htext ?_
  cases direction <;> rfl

namespace OrderBy

/-- The ordering of which some fields have been read. -/
def readUpTo (order : OrderBy) (seen : List String) : OrderBy :=
  ⟨known seen "column" order.column "", known seen "direction" order.direction .ascending⟩

theorem follows (order : OrderBy) : shape.Follows order.clauses order.readUpTo order := by
  constructor
  · rfl
  · refine .cons ?_ (.cons ?_ .nil)
    · exact slotFollows_string (fun (order : OrderBy) column ↦ { order with column })
        fun seen ↦ by simp [readUpTo, known]
    · exact slotFollows (fun (order : OrderBy) direction ↦ { order with direction }) rfl
        (fun h ↦ absurd h Bool.false_ne_true) (fun _ htext ↦ order.direction.takes_reader htext)
        fun seen ↦ by simp [readUpTo, known]
  · intro seen hseen
    obtain ⟨hcolumn, hdirection⟩ :
        "column" ∈ seen ∧ (order.direction = .ascending ∨ "direction" ∈ seen) := by
      simpa [clauses] using hseen
    rw [readUpTo, known_eq (Or.inr hcolumn), known_eq hdirection]

end OrderBy

namespace Projection

theorem texts?_map_string (names : List String) : texts? (names.map .string) = some names := by
  induction names with
  | nil => rfl
  | cons name names ih => rw [List.map_cons, texts?, ih, Option.map_some]

theorem takes_reader {projection : Projection} {text : List Char}
    (htext : projection.Written text) : reader.Takes text projection := by
  obtain ⟨value, hvalue, hof⟩ : ∃ value,
      (Value.reader (Value.maxDepth - 1)).Takes text value ∧ ofValue value = .ok projection := by
    cases htext with
    | all htext => exact ⟨_, Value.takes_string htext _, by rw [ofValue, if_pos rfl]⟩
    | columns htext =>
      refine ⟨_, Value.takes_array htext (by decide), ?_⟩
      rw [ofValue, texts?_map_string]
  intro blanks rest hblanks hends
  rw [reader, bind_eq_of_ok (hvalue hblanks hends), hof]
  rfl

end Projection

theorem Operation.takes_reader (operation : Operation) {text : List Char}
    (htext : Spelled operation.name text) : Operation.reader.Takes text operation := by
  refine Reader.takes_variant htext ?_
  cases operation <;> rfl

namespace Query

variable {query : Query} {assignments : Option (List (String × String))}

/-- The query of which some clauses have been read. -/
def readUpTo (query : Query) (assignments : Option (List (String × String)))
    (seen : List String) : Query where
  operation := known seen "operation" query.operation .select
  table := known seen "table" query.table none
  projection := known seen "projection" query.projection .all
  filter := known seen "filter" query.filter none
  join := known seen "join" query.join none
  sort := known seen "sort" query.sort none
  payload := known seen "payload" (assignments.map .ofList) none

theorem follows (query : Query) (assignments : Option (List (String × String))) :
    shape.Follows (query.clauses assignments) (query.readUpTo assignments)
      { query with payload := assignments.map .ofList } := by
  constructor
  · rfl
  · refine .cons ?_ (.cons ?_ (.cons ?_ (.cons ?_ (.cons ?_ (.cons ?_ (.cons ?_ .nil))))))
    · exact slotFollows (fun (query : Query) operation ↦ { query with operation }) rfl
        (fun _ ↦ id) (fun _ htext ↦ query.operation.takes_reader htext)
        fun seen ↦ by simp [readUpTo, known]
    · exact slotFollows_nullable (fun (query : Query) table ↦ { query with table }) id
        (fun htext ↦ Reader.takes_string htext _) Reader.beginsOtherThanNull_of_spelled
        fun seen ↦ by simp [readUpTo, known]
    · exact slotFollows (fun (query : Query) projection ↦ { query with projection }) rfl
        (fun h ↦ absurd h Bool.false_ne_true) (fun _ htext ↦ Projection.takes_reader htext)
        fun seen ↦ by simp [readUpTo, known]
    · exact slotFollows_nullable (fun (query : Query) filter ↦ { query with filter }) id
        (fun htext ↦ (Filter.follows _).takes htext) RecordText.beginsOtherThanNull
        fun seen ↦ by simp [readUpTo, known]
    · exact slotFollows_nullable (fun (query : Query) join ↦ { query with join }) id
        (fun htext ↦ (Join.follows _).takes htext) RecordText.beginsOtherThanNull
        fun seen ↦ by simp [readUpTo, known]
    · exact slotFollows_nullable (fun (query : Query) sort ↦ { query with sort }) id
        (fun htext ↦ (OrderBy.follows _).takes htext) RecordText.beginsOtherThanNull
        fun seen ↦ by simp [readUpTo, known]
    · exact slotFollows_nullable (fun (query : Query) payload ↦ { query with payload })
        Payload.ofList (fun htext ↦ Reader.takes_strings Payload.empty htext)
        (Reader.beginsOtherThanNull_of_bracketed (by decide) (by decide))
        fun seen ↦ by simp [readUpTo, known]
  · intro seen hseen
    obtain ⟨hoperation, htable, hprojection, hfilter, hjoin, hsort, hpayload⟩ :
        "operation" ∈ seen ∧ (query.table = none ∨ "table" ∈ seen) ∧
          (query.projection = .all ∨ "projection" ∈ seen) ∧
          (query.filter = none ∨ "filter" ∈ seen) ∧ (query.join = none ∨ "join" ∈ seen) ∧
          (query.sort = none ∨ "sort" ∈ seen) ∧
          (assignments.map Payload.ofList = none ∨ "payload" ∈ seen) := by
      simpa [clauses] using hseen
    rw [readUpTo, known_eq (Or.inr hoperation), known_eq htable, known_eq hprojection,
      known_eq hfilter, known_eq hjoin, known_eq hsort, known_eq hpayload]

/-- A descriptor is read as the query that it tells, whatever clauses it leaves out. -/
theorem ofText_eq_of_descriptorText {text : String}
    (htext : query.DescriptorText assignments text.toList) :
    ofText text = .ok { query with payload := assignments.map .ofList } := by
  unfold ofText
  generalize hcharacters : text.toList = characters at htext
  obtain @⟨before, record, after, hbefore, hrecord, hafter⟩ := htext
  have hread := (query.follows assignments).reader_eq hrecord hbefore after
  exact Reader.readAll_eq (hcharacters ▸ hread) hafter

end Query

/-! ### Written descriptors -/

theorem Json.Value.optionText_ofOption {α : Type} {write : α → Value}
    {written : α → List Char → Prop} (hwritten : ∀ value, written value (write value).compactChars)
    (option : Option α) :
    OptionText written option (Value.ofOption write option).compactChars := by
  cases option with
  | none =>
    rw [Value.ofOption, Value.compactChars]
    exact .none
  | some value => exact .some (hwritten value)

theorem Json.Value.spelled_compactChars (text : String) :
    Spelled text (Value.string text).compactChars := by
  rw [Value.compactChars]
  exact spelled_stringChars text

open Json.Value

theorem Filter.recordText (filter : Filter) :
    RecordText filter.clauses filter.toJson.compactChars := by
  refine recordText_object (by simp [clauses]) (.cons ⟨rfl, ?_⟩ (.cons ⟨rfl, ?_⟩ .nil)) <;>
    exact spelled_compactChars _

theorem Join.recordText (join : Join) : RecordText join.clauses join.toJson.compactChars := by
  refine recordText_object (by simp [clauses])
    (.cons ⟨rfl, ?_⟩ (.cons ⟨rfl, ?_⟩ (.cons ⟨rfl, ?_⟩ .nil))) <;>
    exact spelled_compactChars _

theorem OrderBy.recordText (order : OrderBy) :
    RecordText order.clauses order.toJson.compactChars := by
  refine recordText_object (by simp [clauses]) (.cons ⟨rfl, ?_⟩ (.cons ⟨rfl, ?_⟩ .nil)) <;>
    exact spelled_compactChars _

theorem Projection.written_toJson (projection : Projection) :
    projection.Written projection.toJson.compactChars := by
  cases projection with
  | all => exact .all (spelled_compactChars "*")
  | columns names => exact .columns (bracketed_array names)

namespace Query

/-- A query as a value whose payload lists assignments, repeated columns included. -/
def listing (query : Query) (assignments : Option (List (String × String))) : Value :=
  .object [
    ("operation", .string query.operation.name),
    ("table", .ofOption .string query.table),
    ("projection", query.projection.toJson),
    ("filter", .ofOption Filter.toJson query.filter),
    ("join", .ofOption Join.toJson query.join),
    ("sort", .ofOption OrderBy.toJson query.sort),
    ("payload", .ofOption
      (fun entries ↦ .object (entries.map fun entry ↦ (entry.1, .string entry.2))) assignments)]

theorem descriptorText_listing (query : Query) (assignments : Option (List (String × String))) :
    query.DescriptorText assignments (query.listing assignments).compact.toList := by
  have hrecord : RecordText (query.clauses assignments)
      (query.listing assignments).compactChars := by
    refine recordText_object (by simp [clauses]) (.cons ⟨rfl, ?_⟩ (.cons ⟨rfl, ?_⟩ (.cons ⟨rfl, ?_⟩
      (.cons ⟨rfl, ?_⟩ (.cons ⟨rfl, ?_⟩ (.cons ⟨rfl, ?_⟩ (.cons ⟨rfl, ?_⟩ .nil)))))))
    · exact spelled_compactChars _
    · exact optionText_ofOption spelled_compactChars _
    · exact query.projection.written_toJson
    · exact optionText_ofOption Filter.recordText _
    · exact optionText_ofOption Join.recordText _
    · exact optionText_ofOption OrderBy.recordText _
    · exact optionText_ofOption bracketed_strings _
  have htext := DescriptorText.padded blanks_nil hrecord blanks_nil
  rw [compact, String.toList_ofList]
  simpa using htext

/-- The written form of a query lists its payload in order. -/
theorem listing_payload (query : Query) :
    query.listing (query.payload.map Payload.entries) = query.toJson := by
  rw [listing, toJson]
  cases query.payload <;> rfl

/-- The text tells the query. The payload may be told in any order. -/
def DescribedBy (query : Query) (text : String) : Prop :=
  ∃ assignments,
    Option.Rel (fun assignments payload ↦ assignments.Perm payload.entries) assignments
      query.payload ∧
    query.DescriptorText assignments text.toList

/-- The written form of a query is read as the query, and so is every text that tells it: its
clauses in any order, absent ones left out or `null`, the projection of all columns and the
ascending direction left out or not, the assignments of its payload in any order, and any other
fields anywhere among these. -/
theorem ofText_described (query : Query) :
    query.DescribedBy query.toText ∧ ofText query.toText = .ok query ∧
      ∀ text, query.DescribedBy text → ofText text = .ok query := by
  have hread (text : String) (htext : query.DescribedBy text) : ofText text = .ok query := by
    obtain ⟨assignments, hpayload, htext⟩ := htext
    have hassigned : assignments.map Payload.ofList = query.payload := by
      generalize query.payload = payload at hpayload
      cases hpayload with
      | none => rfl
      | some hperm => rw [Option.map_some, Payload.ofList_eq_of_perm hperm]
    rw [ofText_eq_of_descriptorText htext, hassigned]
  have hwritten : query.DescribedBy query.toText := by
    have htext := query.descriptorText_listing (query.payload.map Payload.entries)
    rw [listing_payload] at htext
    refine ⟨_, ?_, htext⟩
    cases query.payload with
    | none => exact .none
    | some payload => exact .some (.refl payload.entries)
  exact ⟨hwritten, hread _ hwritten, hread⟩

/-- A query for an update of two columns. -/
def updateOfTwo : Query :=
  { Query.on .update "t" with payload := some (.ofList [("a", "1"), ("b", "")]) }

/-- A text that tells it in another way than the written form. -/
def textOfTwo : String :=
  " \x7b\"x\":[ ],\"payload\":\x7b\"b\":\"\",\"a\":\"1\"\x7d,\"table\":\"\\u0074\"," ++
    "\"join\":null,\"operation\":\"UPDATE\"\x7d"

theorem ofText_described_updateOfTwo : ofText textOfTwo = .ok updateOfTwo := by
  let assignments : List (String × String) := [("b", ""), ("a", "1")]
  let payload : Value := .object [("b", .string ""), ("a", .string "1")]
  let fields : List (String × List Char) := [("x", ['[', ' ', ']']),
    ("payload", payload.compactChars), ("table", quotes ['\\', 'u', '0', '0', '7', '4']),
    ("join", ['n', 'u', 'l', 'l']), ("operation", stringChars "UPDATE")]
  have hblank : Blanks [' '] := by simp [Blanks, Skip.isBlank]
  have htable : Spelled "t" (quotes ['\\', 'u', '0', '0', '7', '4']) :=
    .quotes (@StringText.code ['0', '0', '7', '4'] [] [] 't' rfl .nil)
  have hpayload : Bracketed StringField '\x7b' '\x7d' assignments payload.compactChars :=
    bracketed_strings assignments
  have hoperation : Spelled updateOfTwo.operation.name (stringChars "UPDATE") :=
    spelled_stringChars "UPDATE"
  have hother : ValueText ['[', ' ', ']'] := .array (.empty hblank) (by simp)
  have hfields : Bracketed NamedField '\x7b' '\x7d' fields _ :=
    .items (.more (namedField_stringChars _ _) (.more (namedField_stringChars _ _)
      (.more (namedField_stringChars _ _) (.more (namedField_stringChars _ _)
        (.last (namedField_stringChars _ _))))))
  have hdescribes : Describes (updateOfTwo.clauses (some assignments)) fields := by
    refine ⟨⟨?_, ?_, ?_⟩, ?_⟩
    · simp [fields, clauses]
    · simpa [fields, clauses, updateOfTwo, Query.on] using
        And.intro hoperation (And.intro (.some htable) (And.intro .none (.some hpayload)))
    · simpa [fields, clauses] using hother
    · simp [fields, clauses, updateOfTwo, Query.on]
  refine (ofText_described updateOfTwo).2.2 _ ⟨some assignments, .some ?_, ?_⟩
  · decide
  · exact .padded hblank (.object hfields hdescribes) blanks_nil

end Query

end FlatTables
