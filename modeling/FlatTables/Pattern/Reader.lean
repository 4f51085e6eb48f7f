import FlatTables.Pattern.Tree
import FlatTables.Text.Blank

/-!
# Reading the text of a pattern

A `Reader` takes what it reads from the front of a text, keeps count of the place it has come to,
and ends with the first flaw. Where a flag in the text asks for it, blanks and comments (from `#` to
the end of the line) are passed over between the parts of a pattern. The readers here are for single
characters and for numbers.
-/

set_option autoImplicit false
set_option relaxedAutoImplicit false

namespace FlatTables.Pattern

/-- What is left of the text of a pattern, with what its reading depends on. -/
structure Remainder where
  rest : List Char
  place : Place := {}
  /-- Whether blanks and comments are passed over. -/
  spaced : Bool := false
  /-- The names of groups, with where they are given. -/
  names : List (String × Span) := []

/-- Reads from the front of the text of a pattern. -/
abbrev Reader := StateT Remainder (Except Flaw)

namespace Reader

variable {α : Type}

/-- Ends the reading with a flaw of the given part. -/
def fail (kind : FlawKind) (span : Span) (earlier : Option Span := none) : Reader α :=
  fun _ ↦ .error { kind, span, earlier }

/-- The place that the reading has come to. -/
def here : Reader Place :=
  return (← get).place

/-- The part from a place up to here. -/
def spanFrom (start : Place) : Reader Span :=
  return ⟨start, ← here⟩

/-- The part without characters at this place. -/
def spanHere : Reader Span := do
  spanFrom (← here)

/-- The next character. -/
def next? : Reader (Option Char) :=
  return (← get).rest.head?

/-- The character behind the next one. -/
def second? : Reader (Option Char) :=
  return (← get).rest.tail.head?

/-- Whether the whole text is read. -/
def atEnd : Reader Bool :=
  return (← get).rest.isEmpty

/-- The part that is the next character. -/
def spanNext : Reader Span := do
  let state ← get
  return ⟨state.place, match state.rest with
    | c :: _ => state.place.next c
    | [] => state.place⟩

/-- Passes over a character. -/
def advance : Reader Unit :=
  modify fun state ↦
    match state.rest with
    | c :: rest => { state with rest, place := state.place.next c }
    | [] => state

/-- Passes over some characters. -/
def advanceBy : Nat → Reader Unit
  | 0 => return
  | count + 1 => do
    advance
    advanceBy count

/-- Whether the text goes on with the given one, which is passed over then. -/
def advancePast (text : String) : Reader Bool := do
  if text.toList.isPrefixOf (← get).rest then
    advanceBy text.length
    return true
  else return false

/-- How many characters of a text are blanks and comments at its front. `inComment` says that the
text begins within a comment. -/
def blankLength (inComment : Bool) : List Char → Nat
  | [] => 0
  | c :: rest =>
    if inComment then 1 + blankLength (c != '\n') rest
    else if Text.isBlank c then 1 + blankLength false rest
    else if c = '#' then 1 + blankLength true rest
    else 0

/-- Passes over blanks and comments if the text asks for it. -/
def passBlanks : Reader Unit := do
  let state ← get
  if state.spaced then advanceBy (blankLength false state.rest)

/-- Passes over a character and the blanks behind it, and says whether the text goes on. -/
def advanceSpaced : Reader Bool := do
  advance
  passBlanks
  return !(← atEnd)

/-- The character behind a dash that is not blank; of a comment only the blanks at its front are
passed over. -/
def pastBlanks? (inComment : Bool) : List Char → Option Char
  | [] => none
  | c :: rest =>
    if Text.isBlank c then pastBlanks? inComment rest
    else if !inComment && c = '#' then pastBlanks? true rest
    else some c

/-- The character behind the next one that means something. -/
def secondSpaced? : Reader (Option Char) := do
  let state ← get
  if state.spaced then
    let behind := state.rest.tail
    return pastBlanks? false behind <|> behind.head?
  else second?

/-! ### Numbers -/

/-- Passes over blanks, whether or not the text asks for it. -/
def passAllBlanks : Reader Unit := do
  advanceBy ((← get).rest.takeWhile Text.isBlank).length

/-- Reads digits, with blanks between them if the text asks for it; `fuel` bounds their number. -/
def digits : (fuel : Nat) → Reader (List Char)
  | 0 => return []
  | fuel + 1 => do
    match ← next? with
    | some c =>
      if c.isDigit then
        let _ ← advanceSpaced
        return c :: (← digits fuel)
      else return []
    | none => return []

/-- The value of digits. -/
def valueOf (base : Nat) (value : Char → Nat) (digits : List Char) : Nat :=
  digits.foldl (fun total c ↦ total * base + value c) 0

/-- Reads a number of repetitions, with blanks around it. Without digits, or too large, it is a flaw
that is only reported where the number is needed. -/
def count : Reader (Except Flaw Nat) := do
  passAllBlanks
  let start ← here
  let found ← digits (← get).rest.length
  let span ← spanFrom start
  passAllBlanks
  passBlanks
  let value := valueOf 10 (fun c ↦ c.toNat - '0'.toNat) found
  if found.isEmpty then return .error { kind := .emptyCount, span }
  else if value < 0x100000000 then return .ok value
  else return .error { kind := .invalidNumber, span }

end Reader

end FlatTables.Pattern
