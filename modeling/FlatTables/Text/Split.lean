/-!
# Splitting text at a character

`cutFirst?` and `cutLast?` cut at the first and at the last occurrence and give `none` when there
is none; `cut` cuts at every one, so it always gives at least one piece. Joining the parts with the
character gives the text back.
-/

set_option autoImplicit false
set_option relaxedAutoImplicit false

namespace FlatTables.Text

/-- The characters before and after the first occurrence. -/
def splitFirst? (separator : Char) : List Char → Option (List Char × List Char)
  | [] => none
  | c :: rest =>
    if c = separator then some ([], rest)
    else (splitFirst? separator rest).map fun (before, after) ↦ (c :: before, after)

/-- The characters before and after the last occurrence. -/
def splitLast? (separator : Char) : List Char → Option (List Char × List Char)
  | [] => none
  | c :: rest =>
    match splitLast? separator rest with
    | some (before, after) => some (c :: before, after)
    | none => if c = separator then some ([], rest) else none

/-- `splitFirst?` on a text. -/
def cutFirst? (separator : Char) (text : String) : Option (String × String) :=
  (splitFirst? separator text.toList).map fun (before, after) ↦
    (String.ofList before, String.ofList after)

/-- `splitLast?` on a text. -/
def cutLast? (separator : Char) (text : String) : Option (String × String) :=
  (splitLast? separator text.toList).map fun (before, after) ↦
    (String.ofList before, String.ofList after)

/-- The pieces of a text between all occurrences. -/
def cut (separator : Char) (text : String) : List String :=
  (text.toList.splitOn separator).map String.ofList

/-- Whether two texts agree when the case of ASCII letters is ignored. -/
def sameIgnoringCase (left right : String) : Bool :=
  left.toList.map Char.toLower == right.toList.map Char.toLower

end FlatTables.Text
