import FlatTables.Pattern.Escape

/-!
# Classes in brackets

A class lists characters, ranges, classes with a name or a letter, and other classes in brackets.
Operators between such lists join them from left to right. A dash at the front stands for itself, a
closing bracket only if nothing comes before it. `Reader.classInBrackets` reads a class; it
keeps the brackets that are open in a stack, innermost first.
-/

set_option autoImplicit false
set_option relaxedAutoImplicit false

namespace FlatTables.Pattern

/-- A class whose closing bracket has not come yet. -/
structure OpenClass where
  /-- The opening, with all that belongs to it. -/
  span : Span
  negated : Bool
  /-- What stands before the last operator, with the operator. -/
  pending : Option (ClassOperator × ClassTree) := none
  /-- Where the list behind the last operator begins. -/
  start : Place
  /-- The list behind the last operator, last item first. -/
  items : List ClassTree := []

namespace OpenClass

/-- Adds an item to the list. -/
def add (item : ClassTree) (opened : OpenClass) : OpenClass :=
  { opened with items := item :: opened.items }

/-- All that has been read of a class. -/
def content (opened : OpenClass) : ClassTree :=
  let right := ClassTree.ofItems opened.start opened.items
  match opened.pending with
  | none => right
  | some (operator, left) => .operation ⟨left.span.start, right.span.stop⟩ operator left right

/-- The class after an operator that ends at the given place. -/
def operate (operator : ClassOperator) (start : Place) (opened : OpenClass) : OpenClass :=
  { opened with pending := some (operator, opened.content), start, items := [] }

end OpenClass

namespace Reader

/-- Passes over a character of the opening of a class and the blanks behind it; the text has to go
on. -/
def advanceOpening (start : Place) : Reader Unit := do
  if !(← advanceSpaced) then fail .unclosedClass (← spanFrom start)

/-- Reads the dashes at the front of a class; `fuel` bounds their number. -/
def leadingDashes (start : Place) : (fuel : Nat) → Reader (List ClassTree)
  | 0 => return []
  | fuel + 1 => do
    if (← next?) = some '-' then
      let item := ClassTree.literal { span := ← spanNext, char := '-' }
      if !(← advanceSpaced) then fail .unclosedClass ⟨start, start⟩
      return (← leadingDashes start fuel) ++ [item]
    else return []

/-- Reads the opening of a class, and what stands for itself only there. -/
def openClass : Reader OpenClass := do
  let start ← here
  advanceOpening start
  let negated := (← next?) == some '^'
  if negated then advanceOpening start
  let first ← here
  let dashes ← leadingDashes start (← get).rest.length
  let items ← if dashes.isEmpty && (← next?) == some ']' then do
      let item := ClassTree.literal { span := ← spanNext, char := ']' }
      advanceOpening start
      pure [item]
    else pure dashes
  return { span := ← spanFrom start, negated, start := first, items }

/-- The class with a name that a text begins with, and how many characters it takes. -/
def namedClass? : List Char → Option (Bool × CharSet × Nat)
  | '[' :: ':' :: rest =>
    let negated := rest.head? == some '^'
    let rest := if negated then rest.tail else rest
    let name := rest.takeWhile (· != ':')
    if [':', ']'].isPrefixOf (rest.drop name.length) then
      (CharSet.named.lookup (String.ofList name)).map fun set ↦
        (negated, set, name.length + if negated then 5 else 4)
    else none
  | _ => none

/-- Reads a class with a name, if one comes here. -/
def namedClass : Reader (Option ClassTree) := do
  match namedClass? (← get).rest with
  | none => return none
  | some (negated, set, length) =>
    let start ← here
    advanceBy length
    return some (.named (← spanFrom start) negated set)

/-- Reads a character or an escape of a class. -/
def classPrimitive : Reader Primitive := do
  match ← next? with
  | some '\\' => escape
  | some char =>
    let span ← spanNext
    advance
    return .literal { span, char }
  | none => fail .unclosedClass (← spanHere)

/-- A primitive as an item of a class. -/
def itemOf : Primitive → Reader ClassTree
  | .literal inner => return .literal inner
  | .shorthand span negated kind => return .shorthand span negated kind
  | .property span name => return .property span name
  | .dot span | .edge span _ => fail .invalidClassEscape span

/-- A primitive as the end of a range. -/
def rangeEnd : Primitive → Reader Literal
  | .literal inner => return inner
  | .shorthand span _ _ | .property span _ | .dot span | .edge span _ =>
    fail .rangeEndNotLiteral span

/-- Reads a range or another item of a class, whose opening is given. -/
def classItem (opening : Span) : Reader ClassTree := do
  let first ← classPrimitive
  passBlanks
  if ← atEnd then fail .unclosedClass opening
  let behind ← secondSpaced?
  if (← next?) ≠ some '-' ∨ behind = some ']' ∨ behind = some '-' then itemOf first
  else
    if !(← advanceSpaced) then fail .unclosedClass opening
    let last ← classPrimitive
    let span : Span := ⟨first.span.start, last.span.stop⟩
    let start ← rangeEnd first
    let stop ← rangeEnd last
    if start.char ≤ stop.char then return .range span start stop else fail .reversedRange span

/-- The operator that begins with the first of two characters. -/
def operator? : Option Char → Option Char → Option ClassOperator
  | some '&', some '&' => some .intersection
  | some '-', some '-' => some .difference
  | some '~', some '~' => some .symmetricDifference
  | _, _ => none

/-- Reads the rest of a class within others up to the last closing bracket; `fuel` bounds the number
of items, operators and brackets. -/
def classRest : (fuel : Nat) → OpenClass → List OpenClass → Reader Tree
  | 0, inner, _ => fail .unclosedClass inner.span
  | fuel + 1, inner, outer => do
    passBlanks
    match ← next? with
    | none => fail .unclosedClass inner.span
    | some '[' =>
      match ← namedClass with
      | some item => classRest fuel (inner.add item) outer
      | none => classRest fuel (← openClass) (inner :: outer)
    | some ']' =>
      advance
      let span ← spanFrom inner.span.start
      match outer with
      | [] => return .bracket span inner.negated inner.content
      | next :: outer =>
        classRest fuel (next.add (.bracket span inner.negated inner.content)) outer
    | first =>
      match operator? first (← second?) with
      | some operator =>
        advanceBy 2
        classRest fuel (inner.operate operator (← here)) outer
      | none => classRest fuel (inner.add (← classItem inner.span)) outer

/-- Reads a class from its opening bracket on. -/
def classInBrackets : Reader Tree := do
  let opened ← openClass
  classRest ((← get).rest.length + 1) opened []

end Reader

end FlatTables.Pattern
