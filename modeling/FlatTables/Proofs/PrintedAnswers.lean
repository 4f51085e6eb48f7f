import FlatTables.Command.Handle
import FlatTables.Proofs.JsonValues

/-!
# Printed answers

What is printed for an answer says everything about it. Both layouts are JSON and are read back as
one value, and this value tells the operation, the columns, the rows and both numbers of the answer
(`Answer.ofJson?`). A row is told as it is: its columns in order, also those with the same name,
with texts as strings and integers as numbers. So equal texts, in either layout, are printed for
equal answers only (`Answer.render_faithful`).

The numbers of an answer have 64 bits (`Answer.Sized`); longer ones would be read as floating-point
numbers.
-/

set_option autoImplicit false
set_option relaxedAutoImplicit false

namespace FlatTables

open Json

/-! ### What a value tells -/

/-- The text that a value is. -/
def Json.Value.text? : Value → Option String
  | .string content => some content
  | _ => none

/-- The number of things that a value is. -/
def Json.Value.count? : Value → Option Nat
  | .number (.integer value) => value.toNat?
  | _ => none

/-- The list that a value is, if all its elements are as required. -/
def Json.Value.list? {α : Type} (element? : Value → Option α) : Value → Option (List α)
  | .array elements => elements.mapM element?
  | _ => none

/-- The operation that a value names. -/
def Operation.ofJson? (value : Value) : Option Operation :=
  value.text?.bind fun name ↦ Operation.all.find? fun operation ↦ operation.name = name

/-- The value of a field that a value is: a string is a text and a number is an integer. -/
def FieldValue.ofJson? : Value → Option FieldValue
  | .string content => some (.text content)
  | .number (.integer value) => some (.integer value)
  | _ => none

/-- The row that an object is, field by field. -/
def AnswerRow.ofJson? : Value → Option AnswerRow
  | .object fields => fields.mapM fun field ↦ (FieldValue.ofJson? field.2).map (field.1, ·)
  | _ => none

/-- The answer that a value tells. -/
def Answer.ofJson? (value : Value) : Option Answer := do
  let operation ← (value.field? "operation").bind Operation.ofJson?
  let columns ← (value.field? "columns").bind (Value.list? Value.text?)
  let rows ← (value.field? "rows").bind (Value.list? AnswerRow.ofJson?)
  let affected ← (value.field? "rows_affected").bind Value.count?
  let milliseconds ← (value.field? "execution_time_ms").bind Value.count?
  return { operation, columns, rows, affected, milliseconds }

/-- A list whose elements are all told is told. -/
theorem mapM_map_eq_some {α β : Type} {tell : α → β} {told? : β → Option α}
    (htold : ∀ first, told? (tell first) = some first) (list : List α) :
    (list.map tell).mapM told? = some list := by
  induction list with
  | nil => rfl
  | cons first list ih =>
    rw [List.map_cons, List.mapM_cons, htold, ih]
    rfl

theorem Operation.ofJson?_name (operation : Operation) :
    Operation.ofJson? (.string operation.name) = some operation := by
  cases operation <;> rfl

theorem FieldValue.ofJson?_toJson (value : FieldValue) :
    FieldValue.ofJson? value.toJson = some value := by
  cases value <;> rfl

theorem AnswerRow.ofJson?_toJson (row : AnswerRow) :
    AnswerRow.ofJson? row.toJson = some row := by
  refine mapM_map_eq_some (fun entry ↦ ?_) row
  rw [FieldValue.ofJson?_toJson]
  rfl

namespace Answer

/-- The value that an answer is written as tells the answer. -/
theorem ofJson?_toJson (answer : Answer) : Answer.ofJson? answer.toJson = some answer := by
  have hoperation : (answer.toJson.field? "operation").bind Operation.ofJson? =
      some answer.operation := Operation.ofJson?_name answer.operation
  have hcolumns : (answer.toJson.field? "columns").bind (Value.list? Value.text?) =
      some answer.columns :=
    @mapM_map_eq_some _ _ Value.string Value.text? (fun _ ↦ rfl) answer.columns
  have hrows : (answer.toJson.field? "rows").bind (Value.list? AnswerRow.ofJson?) =
      some answer.rows := mapM_map_eq_some AnswerRow.ofJson?_toJson answer.rows
  have haffected : (answer.toJson.field? "rows_affected").bind Value.count? =
      some answer.affected := rfl
  have hmilliseconds : (answer.toJson.field? "execution_time_ms").bind Value.count? =
      some answer.milliseconds := rfl
  rw [ofJson?, hoperation, hcolumns, hrows, haffected, hmilliseconds]
  rfl

/-! ### What is printed -/

/-- The numbers of an answer have 64 bits, those of the rows with a sign. -/
structure Sized (answer : Answer) : Prop where
  integers : ∀ row ∈ answer.rows, ∀ entry ∈ row, ∀ value, entry.2 = .integer value →
    -2 ^ 63 ≤ value ∧ value < 2 ^ 63
  affected : answer.affected < 2 ^ 64
  milliseconds : answer.milliseconds < 2 ^ 64

variable {answer : Answer}

theorem Sized.printable_row (hsized : answer.Sized) {row : AnswerRow} (hrow : row ∈ answer.rows) :
    row.toJson.Printable 1 := by
  refine .object (List.forall_mem_map.mpr fun entry hentry ↦ ?_)
  have hinteger := hsized.integers row hrow entry hentry
  dsimp only
  cases hvalue : entry.2 with
  | text content => exact .string content
  | integer value =>
    obtain ⟨hlow, hhigh⟩ := hinteger value hvalue
    exact .integer hlow (by omega)

theorem Sized.printable (hsized : answer.Sized) : answer.toJson.Printable 3 := by
  have haffected := hsized.affected
  have hmilliseconds := hsized.milliseconds
  refine .object ?_
  simp only [List.forall_mem_cons]
  refine ⟨.string _, .array (List.forall_mem_map.mpr fun _ _ ↦ .string _),
    .array (List.forall_mem_map.mpr fun row hrow ↦ hsized.printable_row hrow),
    .integer (by omega) (by omega), .integer (by omega) (by omega), ?_⟩
  exact fun _ h ↦ absurd h List.not_mem_nil

/-- What is printed is a text of the answer in JSON, in either layout. -/
theorem Sized.exists_render (hsized : answer.Sized) (invocation : Command.Invocation) :
    ∃ text, invocation.render answer = text ++ "\n" ∧
      Value.WrittenAs 3 answer.toJson text.toList := by
  unfold Command.Invocation.render
  split
  · exact ⟨_, rfl, hsized.printable.writtenAs_pretty⟩
  · exact ⟨_, rfl, hsized.printable.writtenAs_compact⟩

/-- What is printed for an answer is JSON and is read back as a value that tells the whole answer,
the same one in both layouts. So other answers are printed as other texts. -/
theorem render_faithful (hsized : answer.Sized) :
    (∃ value, Answer.ofJson? value = some answer ∧ ∀ invocation : Command.Invocation,
        WellFormed (invocation.render answer) ∧
          Value.parse (invocation.render answer) = .ok value) ∧
      ∀ other : Answer, other.Sized → ∀ invocation otherInvocation : Command.Invocation,
        invocation.render answer = otherInvocation.render other → answer = other := by
  have hread {answer : Answer} (hsized : answer.Sized) (invocation : Command.Invocation) :
      WellFormed (invocation.render answer) ∧
        Value.parse (invocation.render answer) = .ok answer.toJson := by
    obtain ⟨text, hprinted, htext⟩ := hsized.exists_render invocation
    rw [hprinted]
    exact ⟨htext.wellFormed, htext.parse_eq (by decide)⟩
  refine ⟨⟨_, answer.ofJson?_toJson, hread hsized⟩, fun other hother invocation second hsame ↦ ?_⟩
  have hvalue := (hread hsized invocation).2
  rw [hsame, (hread hother second).2] at hvalue
  have htold := other.ofJson?_toJson
  rw [Except.ok.inj hvalue, answer.ofJson?_toJson] at htold
  exact Option.some.inj htold

/-- An answer with quotes, backslashes, control characters and letters outside ASCII, with a column
that comes twice, and with the least and the greatest numbers that there are. -/
def awkward : Answer where
  operation := .insert
  columns := ["a\"b", "\\", "a\"b"]
  rows := [
    [("a\"b", .text "\"\\\n\x01é😀"), ("\\", .integer (-9223372036854775808)),
      ("a\"b", .integer 9223372036854775807)],
    []]
  affected := 18446744073709551615

theorem sized_awkward : awkward.Sized where
  integers := by
    intro row hrow entry hentry value hvalue
    simp only [awkward, List.mem_cons, List.not_mem_nil, or_false] at hrow
    rcases hrow with rfl | rfl
    · simp only [List.mem_cons, List.not_mem_nil, or_false] at hentry
      rcases hentry with rfl | rfl | rfl <;> cases hvalue <;> decide
    · exact absurd hentry List.not_mem_nil
  affected := by decide
  milliseconds := by decide

/-- The answer is read back from both layouts. -/
theorem render_faithful_awkward :
    let plain : Command.Invocation := ⟨{}, .version⟩
    let pretty : Command.Invocation := ⟨{ pretty := true }, .version⟩
    awkward.Sized ∧
      (∃ value, Answer.ofJson? value = some awkward ∧
        Value.parse (plain.render awkward) = .ok value ∧
        Value.parse (pretty.render awkward) = .ok value) ∧
      plain.render awkward = "\x7b\"operation\":\"INSERT\"," ++
        "\"columns\":[\"a\\\"b\",\"\\\\\",\"a\\\"b\"]," ++
        "\"rows\":[\x7b\"a\\\"b\":\"\\\"\\\\\\n\\u0001é😀\"," ++
        "\"\\\\\":-9223372036854775808," ++
        "\"a\\\"b\":9223372036854775807\x7d,\x7b\x7d]," ++
        "\"rows_affected\":18446744073709551615,\"execution_time_ms\":0\x7d\n" := by
  intro plain pretty
  obtain ⟨⟨value, htold, hread⟩, -⟩ := render_faithful sized_awkward
  exact ⟨sized_awkward, ⟨value, htold, (hread plain).2, (hread pretty).2⟩, by decide +kernel⟩

end Answer

end FlatTables
