import FlatTables.Json.Reader

/-!
# JSON values

A value keeps the fields of an object in the order of the text, repeated names included.
`Value.reader` reads any value that is nested less deep than a limit; `compact` and `pretty`
write one, the second with a line to each element and two blanks to each level.
-/

set_option autoImplicit false
set_option relaxedAutoImplicit false

namespace FlatTables.Json

/-- A JSON value. -/
inductive Value
  | null
  | boolean (value : Bool)
  | number (value : Number)
  | string (text : String)
  | array (elements : List Value)
  | object (fields : List (String × Value))

namespace Value

/-- An integer as a value. -/
def integer (value : Int) : Value :=
  .number (.integer value)

/-- The first field of this name, when the value is an object that has one. -/
def field? : Value → String → Option Value
  | .object fields, name => fields.lookup name
  | _, _ => none

/-! ### Reading -/

open Reader

mutual

/-- Reads a value. `fuel` bounds the length of the text and `depth` the number of brackets that
may be open at once. -/
def read : (fuel depth : Nat) → Reader Value
  | 0, _ => fail .malformed
  | fuel + 1, depth => do
    match ← peek with
    | 'n' => literal ['n', 'u', 'l', 'l']; return .null
    | 't' => literal ['t', 'r', 'u', 'e']; return .boolean true
    | 'f' => literal ['f', 'a', 'l', 's', 'e']; return .boolean false
    | '"' => return .string (← stringHere)
    | '[' =>
      if depth ≤ 1 then fail .malformed
      else
        advance
        let elements ← readElements fuel (depth - 1) true []
        close ']'
        return .array elements
    | '\x7b' =>
      if depth ≤ 1 then fail .malformed
      else
        advance
        let fields ← readFields fuel (depth - 1) true []
        close '\x7d'
        return .object fields
    | c => if c = '-' ∨ c.isDigit then return .number (← numberHere c) else fail .malformed

/-- Reads the elements of an array up to its closing bracket; those read before come newest
first. -/
def readElements : (fuel depth : Nat) → Bool → List Value → Reader (List Value)
  | 0, _, _, _ => fail .malformed
  | fuel + 1, depth, first, elements => do
    if ← hasElement first then
      let element ← read fuel depth
      readElements fuel depth false (element :: elements)
    else return elements.reverse

/-- Reads the fields of an object up to its closing brace; those read before come newest
first. -/
def readFields : (fuel depth : Nat) → Bool → List (String × Value) →
    Reader (List (String × Value))
  | 0, _, _, _ => fail .malformed
  | fuel + 1, depth, first, fields => do
    if ← hasField first then
      let name ← stringHere
      colon
      let value ← read fuel depth
      readFields fuel depth false ((name, value) :: fields)
    else return fields.reverse

end

/-- Reads a value with fewer than `depth` brackets open at once. Each call of the functions above
that leads to another one is paid for by a character of the text, or by one of two calls at each
bracket. -/
def reader (depth : Nat) : Reader Value := fun text ↦
  read (2 * text.length + 2) depth text

/-- How many brackets a whole text may have open at once, and one more. -/
def maxDepth : Nat := 128

/-- The value of a whole text. -/
def parse (text : String) : Except Problem Value :=
  (reader maxDepth).readAll text

/-! ### Writing -/

/-- What stands for a character between the quotes of a string: quotes, backslashes and control
characters are escaped, and nothing else is. -/
def escapeChar (c : Char) : List Char :=
  match c with
  | '"' => ['\\', '"']
  | '\\' => ['\\', '\\']
  | '\n' => ['\\', 'n']
  | '\r' => ['\\', 'r']
  | '\t' => ['\\', 't']
  | '\x08' => ['\\', 'b']
  | '\x0c' => ['\\', 'f']
  | c =>
    if c < ' ' then
      ['\\', 'u', '0', '0', Nat.digitChar (c.toNat / 16), Nat.digitChar (c.toNat % 16)]
    else [c]

/-- A string with its quotes. -/
def stringChars (text : String) : List Char :=
  '"' :: (text.toList.flatMap escapeChar ++ ['"'])

/-- The text of a number. -/
def numberChars : Number → List Char
  | .integer value => (toString value).toList
  | .float value => (Shortest.render value).toList

mutual

/-- The characters of a value without blanks. -/
def compactChars : Value → List Char
  | .null => ['n', 'u', 'l', 'l']
  | .boolean true => ['t', 'r', 'u', 'e']
  | .boolean false => ['f', 'a', 'l', 's', 'e']
  | .number value => numberChars value
  | .string text => stringChars text
  | .array elements => '[' :: compactElements elements
  | .object fields => '\x7b' :: compactFields fields

/-- The elements of an array and its closing bracket. -/
def compactElements : List Value → List Char
  | [] => [']']
  | [element] => compactChars element ++ [']']
  | element :: others => compactChars element ++ ',' :: compactElements others

/-- The fields of an object and its closing brace. -/
def compactFields : List (String × Value) → List Char
  | [] => ['\x7d']
  | [(name, value)] => stringChars name ++ ':' :: compactChars value ++ ['\x7d']
  | (name, value) :: others =>
    stringChars name ++ ':' :: compactChars value ++ ',' :: compactFields others

end

/-- A line end and the blanks of a level. -/
def lineStart (level : Nat) : List Char :=
  '\n' :: List.replicate (2 * level) ' '

mutual

/-- The characters of a value whose first line stands at a level. -/
def prettyChars (level : Nat) : Value → List Char
  | .null => ['n', 'u', 'l', 'l']
  | .boolean true => ['t', 'r', 'u', 'e']
  | .boolean false => ['f', 'a', 'l', 's', 'e']
  | .number value => numberChars value
  | .string text => stringChars text
  | .array [] => ['[', ']']
  | .array elements => '[' :: prettyElements level elements
  | .object [] => ['\x7b', '\x7d']
  | .object fields => '\x7b' :: prettyFields level fields

/-- The elements of an array, each on a line of its own, and its closing bracket. -/
def prettyElements (level : Nat) : List Value → List Char
  | [] => lineStart level ++ [']']
  | [element] =>
    lineStart (level + 1) ++ prettyChars (level + 1) element ++ lineStart level ++ [']']
  | element :: others =>
    lineStart (level + 1) ++ prettyChars (level + 1) element ++ ',' :: prettyElements level others

/-- The fields of an object, each on a line of its own, and its closing brace. -/
def prettyFields (level : Nat) : List (String × Value) → List Char
  | [] => lineStart level ++ ['\x7d']
  | [(name, value)] =>
    lineStart (level + 1) ++ stringChars name ++ ':' :: ' ' :: prettyChars (level + 1) value ++
      lineStart level ++ ['\x7d']
  | (name, value) :: others =>
    lineStart (level + 1) ++ stringChars name ++ ':' :: ' ' :: prettyChars (level + 1) value ++
      ',' :: prettyFields level others

end

/-- The text of a value on one line. -/
def compact (value : Value) : String :=
  String.ofList value.compactChars

/-- The text of a value with a line to each element. -/
def pretty (value : Value) : String :=
  String.ofList (value.prettyChars 0)

end Value

end FlatTables.Json
