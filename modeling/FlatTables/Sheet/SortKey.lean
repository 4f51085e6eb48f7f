import FlatTables.Text.Numeral

/-!
# Sort keys

A field is ordered by its class first: numerals, then other text, then empty fields. Numerals
are ordered by the integer they stand for, text by code points, and empty fields are all equal.
A field that its row is too short to hold is empty.
-/

set_option autoImplicit false
set_option relaxedAutoImplicit false

namespace FlatTables

/-- What a field is ordered by. -/
inductive SortKey
  | number (numeral : Numeral)
  | text (content : String)
  | empty
deriving DecidableEq

namespace SortKey

/-- The key of a field; `none` stands for a missing one. -/
def classify : Option String → SortKey
  | none => .empty
  | some field =>
    if field = "" then .empty
    else
      match Numeral.parse? field with
      | some numeral => .number numeral
      | none => .text field

/-- Whether the field is empty or missing. -/
def isEmpty (key : SortKey) : Bool :=
  key == .empty

/-- The place of a key's class in ascending order. -/
def rank : SortKey → Nat
  | .number _ => 0
  | .text _ => 1
  | .empty => 2

/-- The ascending order of keys. -/
protected def compare (left right : SortKey) : Ordering :=
  match left, right with
  | .number left, .number right => left.compare right
  | .text left, .text right => compareOfLessAndEq left right
  | left, right => compare left.rank right.rank

end SortKey

end FlatTables
