import FlatTables.Json.Number
import FlatTables.Json.Skip

/-!
# Reading JSON text

A `Reader` takes what it reads from the front of a text and leaves the rest, or ends with the
first problem. The readers here are for the parts that every shape is made of: blanks, literals,
strings, numbers, and the punctuation of arrays and objects. `wrongType` reports what stands in
the text where something else was expected; the text of that value is read first, so that a
problem inside it is the one reported.
-/

set_option autoImplicit false
set_option relaxedAutoImplicit false

namespace FlatTables.Json

/-- Reads from the front of a text. -/
abbrev Reader := StateT (List Char) (Except Problem)

namespace Reader

variable {α β : Type}

/-- Ends the reading. -/
def fail (problem : Problem) : Reader α :=
  fun _ ↦ .error problem

/-- Ends the reading of a well-formed text of the wrong shape. -/
def refuse (detail : Mismatch) : Reader α :=
  fail (.mismatch detail)

/-- A reader given as a function on the text. -/
def ofScan (scan : List Char → Except Problem (α × List Char)) : Reader α :=
  scan

/-- The first character that is not blank; the text is left in front of it. -/
def peek? : Reader (Option Char) := fun text ↦
  let text := text.dropWhile Skip.isBlank
  .ok (text.head?, text)

/-- The first character that is not blank, which has to be there. -/
def peek : Reader Char := do
  match ← peek? with
  | some c => return c
  | none => fail .ended

/-- Passes over one character. -/
def advance : Reader Unit := fun text ↦ .ok ((), text.tail)

/-- Reads the given characters. -/
def literal : List Char → Reader Unit
  | [] => return
  | expected :: more => fun text ↦
    match text with
    | [] => .error .ended
    | c :: rest => if c = expected then literal more rest else .error .malformed

/-- Reads a string from its opening quote on. -/
def stringHere : Reader String := do
  advance
  ofScan (scanString .plain [])

/-- Reads a number from its first character on. -/
def numberHere (first : Char) : Reader Number := do
  if first = '-' then
    advance
    ofScan (Number.read true)
  else ofScan (Number.read false)

/-- Reports the value that begins with the given character. -/
def wrongType (expected : String) (first : Char) : Reader α := do
  let found ← match first with
    | 'n' => literal ['n', 'u', 'l', 'l']; pure Found.null
    | 't' => literal ['t', 'r', 'u', 'e']; pure (Found.boolean true)
    | 'f' => literal ['f', 'a', 'l', 's', 'e']; pure (Found.boolean false)
    | '"' => Found.string <$> stringHere
    | '[' => pure Found.sequence
    | '\x7b' => pure Found.map
    | c =>
      if c = '-' ∨ c.isDigit then Number.found <$> numberHere c else fail .malformed
  refuse (.wrongType found expected)

/-- Reads a string; `expected` says what for. -/
def string (expected : String) : Reader String := do
  let first ← peek
  if first = '"' then stringHere else wrongType expected first

/-- Reads `null` as nothing and anything else as the inner reader does. -/
def nullable (inner : Reader α) : Reader (Option α) := do
  if (← peek?) = some 'n' then
    literal ['n', 'u', 'l', 'l']
    return none
  else some <$> inner

/-- Passes over a value. -/
def skip : Reader Unit := fun text ↦
  (skipValue text).map fun rest ↦ ((), rest)

/-! ### Punctuation -/

/-- Whether another element of an array follows; the comma before it is read, the closing
bracket is not. -/
def hasElement (first : Bool) : Reader Bool := do
  let c ← peek
  if c = ']' then return false
  else if first then return true
  else if c = ',' then
    advance
    if (← peek) = ']' then fail .malformed else return true
  else fail .malformed

/-- Whether another field of an object follows; the comma before it is read, the closing brace
is not. -/
def hasField (first : Bool) : Reader Bool := do
  let c ← peek
  if c = '\x7d' then return false
  else if first then
    if c = '"' then return true else fail .malformed
  else if c = ',' then
    advance
    if (← peek) = '"' then return true else fail .malformed
  else fail .malformed

/-- Reads the colon behind the name of a field. -/
def colon : Reader Unit := do
  if (← peek) = ':' then advance else fail .malformed

/-- Reads the bracket or brace that has to close here. -/
def close (bracket : Char) : Reader Unit := do
  if (← peek) = bracket then advance else fail .malformed

/-! ### Whole texts -/

/-- The rest of the text is blank. -/
def atEnd : Reader Unit := do
  match ← peek? with
  | none => return
  | some _ => fail .malformed

/-- What a reader makes of a whole text. -/
def readAll (reader : Reader α) (text : String) : Except Problem α := do
  let (value, rest) ← reader.run text.toList
  let _ ← atEnd.run rest
  return value

end Reader

end FlatTables.Json
