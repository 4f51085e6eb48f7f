import FlatTables.Json.Reader

/-!
# Records in JSON text

A record with named fields is read from an object, or from an array that lists the fields in
their order of declaration (`Shape.reader`). A field has a name, may have to be present, and says
how its value is read into the record (`Slot`). In an object, fields with unknown names are
passed over, a known field may come only once, and missing ones are reported in order of
declaration once the object ends. An array may leave out fields at its end, unless they have to
be present.

`variant` reads a value that is one of a few names, given as a string or as the only field of an
object whose value is `null`.
-/

set_option autoImplicit false
set_option relaxedAutoImplicit false

namespace FlatTables.Json

variable {α β : Type}

/-- A field of a record. -/
structure Slot (α : Type) where
  name : String
  required : Bool
  /-- Reads the value into the record. -/
  read : α → Reader α

/-- A kind of record. -/
structure Shape (α : Type) where
  /-- What messages call it. -/
  title : String
  /-- The record before any field has been read. -/
  start : α
  slots : List (Slot α)

namespace Shape

open Reader

/-- The first field that has to be present and is not among the names. -/
def firstMissing? (shape : Shape α) (seen : List String) : Option String :=
  (shape.slots.find? fun slot ↦ slot.required && !seen.contains slot.name).map Slot.name

/-- Reads the fields of an object up to its closing brace. `seen` are the names of the fields
that have been read into the record, and `fuel` bounds their number. -/
def readObject (shape : Shape α) : (fuel : Nat) → Bool → List String → α → Reader α
  | 0, _, _, _ => fail .malformed
  | fuel + 1, first, seen, record => do
    if ← hasField first then
      let name ← stringHere
      match shape.slots.find? fun slot ↦ slot.name == name with
      | none =>
        colon
        skip
        readObject shape fuel false seen record
      | some slot =>
        if seen.contains name then refuse (.duplicateField name)
        else
          colon
          let record ← slot.read record
          readObject shape fuel false (name :: seen) record
    else
      match shape.firstMissing? seen with
      | some name => refuse (.missingField name)
      | none => return record

/-- What messages call an array of the record's fields. -/
def arrayTitle (shape : Shape α) : String :=
  shape.title ++ " with " ++ toString shape.slots.length ++ " elements"

/-- Reads the elements of an array up to its closing bracket, or up to the last field. `index`
counts the fields read before. -/
def readArray (shape : Shape α) : List (Slot α) → Nat → α → Reader α
  | [], _, record => return record
  | slot :: slots, index, record => do
    if ← hasElement (index == 0) then readArray shape slots (index + 1) (← slot.read record)
    else if slot.required then refuse (.wrongLength index shape.arrayTitle)
    else readArray shape slots index record

/-- Reads the fields of an object; each costs at least one character. -/
def objectReader (shape : Shape α) : Reader α := fun text ↦
  shape.readObject (text.length + 1) true [] shape.start text

/-- Reads a record. -/
def reader (shape : Shape α) : Reader α := do
  match ← peek with
  | '\x7b' =>
    advance
    let record ← shape.objectReader
    close '\x7d'
    return record
  | '[' =>
    advance
    let record ← shape.readArray shape.slots 0 shape.start
    close ']'
    return record
  | first => wrongType shape.title first

end Shape

namespace Reader

/-- The alternative of this name. -/
def choose (alternatives : List (String × α)) (name : String) : Reader α :=
  match alternatives.lookup name with
  | some value => return value
  | none => refuse (.unknownVariant name (alternatives.map Prod.fst))

/-- Reads one of a few named alternatives. -/
def variant (alternatives : List (String × α)) : Reader α := do
  match ← peek with
  | '"' => choose alternatives (← stringHere)
  | '\x7b' =>
    advance
    if (← peek) ≠ '"' then fail .malformed
    let value ← choose alternatives (← stringHere)
    colon
    let first ← peek
    if first = 'n' then literal ['n', 'u', 'l', 'l'] else wrongType "unit" first
    close '\x7d'
    return value
  | _ => fail .malformed

/-- Reads the fields of an object of strings up to its closing brace and puts each into the
collection. -/
def readStrings (put : β → String → String → β) : (fuel : Nat) → Bool → β → Reader β
  | 0, _, _ => fail .malformed
  | fuel + 1, first, collection => do
    if ← hasField first then
      let name ← stringHere
      colon
      let text ← string "a string"
      readStrings put fuel false (put collection name text)
    else return collection

/-- Reads an object of strings. -/
def strings (start : β) (put : β → String → String → β) : Reader β := do
  let first ← peek
  if first = '\x7b' then
    advance
    let collection ← fun text ↦ readStrings put (text.length + 1) true start text
    close '\x7d'
    return collection
  else wrongType "a map" first

end Reader

end FlatTables.Json
