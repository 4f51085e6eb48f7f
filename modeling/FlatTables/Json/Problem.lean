import FlatTables.Text.Quoted
import FlatTables.Text.Shortest

/-!
# What can be wrong with a JSON text

A text is read from left to right and the first problem ends the reading. There are three kinds:
the text ends too early, it is not JSON, or it is JSON of another shape than the one asked for
(`Mismatch`). Only a mismatch has a message.
-/

set_option autoImplicit false
set_option relaxedAutoImplicit false

namespace FlatTables.Json

/-- What stands in the text where something else was expected. -/
inductive Found
  | null
  | boolean (value : Bool)
  | integer (value : Int)
  | float (value : Float)
  | string (text : String)
  | sequence
  | map

namespace Found

/-- The found thing as messages name it. -/
def describe : Found → String
  | .null => "null"
  | .boolean value => "boolean `" ++ (if value then "true" else "false") ++ "`"
  | .integer value => "integer `" ++ toString value ++ "`"
  | .float value => "floating point `" ++ Shortest.render value ++ "`"
  | .string text => "string " ++ quoted text
  | .sequence => "sequence"
  | .map => "map"

end Found

/-- A well-formed text of the wrong shape. -/
inductive Mismatch
  /-- A value of another type than the expected one. -/
  | wrongType (found : Found) (expected : String)
  /-- A string that is no value of the expected kind. -/
  | wrongValue (text expected : String)
  /-- An array that ends before its required elements. -/
  | wrongLength (length : Nat) (expected : String)
  /-- A name that is none of the known ones. -/
  | unknownVariant (name : String) (known : List String)
  /-- An object without a required field. -/
  | missingField (name : String)
  /-- An object with a known field twice. -/
  | duplicateField (name : String)
  /-- A projection given as a text other than the star. -/
  | projectionText (text : String)
  /-- A projection that is neither a text nor a list of texts. -/
  | projectionShape

namespace Mismatch

/-- Names between back quotes, as a list in a sentence. -/
def alternatives : List String → String
  | [first, second] => "`" ++ first ++ "` or `" ++ second ++ "`"
  | names => "one of " ++ ", ".intercalate (names.map fun name ↦ "`" ++ name ++ "`")

/-- The text of a mismatch. -/
def message : Mismatch → String
  | .wrongType found expected =>
    "invalid type: " ++ found.describe ++ ", expected " ++ expected
  | .wrongValue text expected =>
    "invalid value: string " ++ quoted text ++ ", expected " ++ expected
  | .wrongLength length expected =>
    "invalid length " ++ toString length ++ ", expected " ++ expected
  | .unknownVariant name known =>
    "unknown variant `" ++ name ++ "`, expected " ++ alternatives known
  | .missingField name => "missing field `" ++ name ++ "`"
  | .duplicateField name => "duplicate field `" ++ name ++ "`"
  | .projectionText text =>
    "projection must be \"*\" or a list of columns, got \"" ++ text ++ "\""
  | .projectionShape => "data did not match any variant of untagged enum ProjectionRepr"

end Mismatch

/-- Why a text is refused. -/
inductive Problem
  /-- The text ends too early. -/
  | ended
  /-- The text is not JSON. -/
  | malformed
  /-- The text is JSON of the wrong shape. -/
  | mismatch (detail : Mismatch)

namespace Problem

/-- A problem in a few words. -/
def summary : Problem → String
  | .ended => "unexpected end of text"
  | .malformed => "not JSON"
  | .mismatch detail => detail.message

/-- A problem as messages show it with its parts. -/
def details (problem : Problem) : String :=
  "Error(" ++ quoted problem.summary ++ ")"

end Problem

end FlatTables.Json
