import FlatTables.Pattern.Reader

/-!
# Escapes

What a backslash makes of the characters behind it (`Reader.escape`): a character that means
something else otherwise, one given by a letter or by its number, a class of characters, or an edge.
Letters and digits without a meaning are refused, all other ASCII characters stand for themselves.
-/

set_option autoImplicit false
set_option relaxedAutoImplicit false

namespace FlatTables.Pattern

/-- The smallest parts of a pattern. -/
inductive Primitive
  | literal (literal : Literal)
  | dot (span : Span)
  | edge (span : Span) (name : EdgeName)
  | shorthand (span : Span) (negated : Bool) (kind : Shorthand)
  | property (span : Span) (name : String)

namespace Primitive

/-- The part of the text. -/
def span : Primitive → Span
  | literal inner => inner.span
  | dot span | edge span _ | shorthand span _ _ | property span _ => span

/-- The tree of a primitive. -/
def tree : Primitive → Tree
  | literal inner => .literal inner
  | dot span => .dot span
  | edge span name => .edge span name
  | shorthand span negated kind => .shorthand span negated kind
  | property span name => .property span name

end Primitive

namespace Reader

/-- The value of a hexadecimal digit. -/
def hexValue? (c : Char) : Option Nat :=
  if c.isDigit then some (c.toNat - '0'.toNat)
  else if 'a' ≤ c && c ≤ 'f' then some (c.toNat - 'a'.toNat + 10)
  else if 'A' ≤ c && c ≤ 'F' then some (c.toNat - 'A'.toNat + 10)
  else none

/-- The character with the given number, which surrogates and numbers beyond the last code point do
not have. -/
def charOf? (code : Nat) : Option Char :=
  if code < 0xD800 ∨ (0xDFFF < code ∧ code < 0x110000) then some (Char.ofNat code) else none

/-- Reads the given number of hexadecimal digits. -/
def hexDigits : (count : Nat) → (value : Nat) → Reader Nat
  | 0, value => return value
  | count + 1, value => do
    match ← next? with
    | none => fail .unfinishedEscape (← spanHere)
    | some c =>
      match hexValue? c with
      | none => fail .invalidHexDigit (← spanNext)
      | some digit =>
        let _ ← advanceSpaced
        hexDigits count (value * 16 + digit)

/-- Reads hexadecimal digits up to the closing brace, and gives them with whether there are any;
`brace` is the place of the opening one, and `fuel` bounds their number. -/
def bracedDigits (brace : Place) : (fuel : Nat) → (value : Nat) → (found : Bool) →
    Reader (Nat × Bool)
  | 0, value, found => return (value, found)
  | fuel + 1, value, found => do
    match ← next? with
    | none => fail .unfinishedEscape (← spanFrom brace)
    | some '\x7d' => return (value, found)
    | some c =>
      match hexValue? c with
      | none => fail .invalidHexDigit (← spanNext)
      | some digit =>
        let _ ← advanceSpaced
        bracedDigits brace fuel (value * 16 + digit) true

/-- Reads a character given by its number behind `letter`; `start` is the place of the backslash.
Without braces the letter says how many digits there are. -/
def hexChar (start : Place) (letter : Char) : Reader Literal := do
  let _ ← advanceSpaced
  match ← next? with
  | none => fail .unfinishedEscape (← spanHere)
  | some '\x7b' =>
    let brace ← here
    advance
    let first ← here
    passBlanks
    let (value, found) ← bracedDigits brace ((← get).rest.length + 1) 0 false
    let last ← here
    let _ ← advanceSpaced
    if !found then fail .emptyHex (← spanFrom brace)
    else
      match charOf? value with
      | some char => return { span := ← spanFrom start, char }
      | none => fail .invalidHex ⟨first, last⟩
  | some _ =>
    let first ← here
    let count := if letter = 'x' then 2 else if letter = 'u' then 4 else 8
    let value ← hexDigits count 0
    match charOf? value with
    | some char => return { span := ← spanFrom start, char, isByte := letter == 'x' }
    | none => fail .invalidHex (← spanFrom first)

/-- Reads the name of a property up to the closing brace; `fuel` bounds its length. -/
def propertyName : (fuel : Nat) → Reader (List Char)
  | 0 => return []
  | fuel + 1 => do
    match ← next? with
    | none => fail .unfinishedEscape (← spanHere)
    | some '\x7d' =>
      advance
      return []
    | some c =>
      let _ ← advanceSpaced
      return c :: (← propertyName fuel)

/-- Reads the name of a property, a letter or a name in braces. -/
def property (start : Place) : Reader Primitive := do
  let _ ← advanceSpaced
  match ← next? with
  | none => fail .unfinishedEscape (← spanHere)
  | some '\x7b' =>
    let _ ← advanceSpaced
    let name ← propertyName ((← get).rest.length + 1)
    return .property (← spanFrom start) (String.ofList name)
  | some '\\' => fail .invalidProperty (← spanNext)
  | some c =>
    let _ ← advanceSpaced
    return .property (← spanFrom start) (String.singleton c)

/-- The names of word edges in braces. -/
def wordEdges : List (String × WordEdge) :=
  [("start", .start), ("end", .stop), ("start-half", .halfStart), ("end-half", .halfStop)]

/-- Whether a character can stand in the name of a word edge. -/
def isWordEdgeChar (c : Char) : Bool :=
  c.isAlpha || c == '-'

/-- Reads the name of a word edge; `fuel` bounds its length. -/
def wordEdgeName : (fuel : Nat) → Reader (List Char)
  | 0 => return []
  | fuel + 1 => do
    match ← next? with
    | some c =>
      if isWordEdgeChar c then
        let _ ← advanceSpaced
        return c :: (← wordEdgeName fuel)
      else return []
    | none => return []

/-- Reads the braces behind `\b` if they hold the name of a word edge; otherwise they say how often
the edge is repeated, and nothing is read. `start` is the place of the backslash. -/
def bracedWordEdge? (start : Place) : Reader (Option WordEdge) := do
  let before ← get
  let brace ← here
  let _ ← advanceSpaced
  match ← next? with
  | none => fail .unfinishedWordEdge (← spanFrom start)
  | some c =>
    if !isWordEdgeChar c then
      set before
      return none
    else
      let first ← here
      let name ← wordEdgeName (← get).rest.length
      if (← next?) = some '\x7d' then
        let span ← spanFrom first
        advance
        match wordEdges.lookup (String.ofList name) with
        | some kind => return some kind
        | none => fail .unknownWordEdge span
      else fail .unclosedWordEdge (← spanFrom brace)

/-- The characters that mean something by themselves. -/
def specials : List Char :=
  ['\\', '.', '+', '*', '?', '(', ')', '|', '[', ']', '\x7b', '\x7d', '^', '$', '#', '&', '-', '~']

/-- Whether a character behind a backslash stands for itself. -/
def standsForItself (c : Char) : Bool :=
  specials.contains c || (c.toNat < 0x80 && !c.isAlphanum && c != '<' && c != '>')

/-- The characters that have a letter. -/
def controls : List (Char × Char) :=
  [('a', '\x07'), ('f', '\x0c'), ('t', '\t'), ('n', '\n'), ('r', '\r'), ('v', '\x0b')]

/-- The edges that have a letter or a bracket. -/
def edges : List (Char × EdgeName) :=
  [('A', .textStart), ('z', .textStop), ('b', .word .edge), ('B', .word .noEdge),
   ('<', .word .start), ('>', .word .stop)]

/-- The classes that have a letter. -/
def shorthands : List (Char × Shorthand × Bool) :=
  [('d', .digit, false), ('s', .space, false), ('w', .word, false),
   ('D', .digit, true), ('S', .space, true), ('W', .word, true)]

/-- Reads an escape of one character. -/
def shortEscape (start : Place) (c : Char) : Reader Primitive := do
  advance
  let span ← spanFrom start
  match shorthands.lookup c, controls.lookup c, edges.lookup c with
  | some (kind, negated), _, _ => return .shorthand span negated kind
  | none, some char, _ => return .literal { span, char }
  | none, none, some name =>
    if c = 'b' && (← next?) == some '\x7b' then
      match ← bracedWordEdge? start with
      | some kind => return .edge (← spanFrom start) (.word kind)
      | none => return .edge span name
    else return .edge span name
  | none, none, none =>
    if standsForItself c then return .literal { span, char := c } else fail .unknownEscape span

/-- Reads an escape from its backslash on. -/
def escape : Reader Primitive := do
  let start ← here
  advance
  match ← next? with
  | none => fail .unfinishedEscape (← spanFrom start)
  | some c =>
    if c.isDigit then fail .backreference ⟨start, (← spanNext).stop⟩
    else if c = 'x' ∨ c = 'u' ∨ c = 'U' then return .literal (← hexChar start c)
    else if c = 'p' ∨ c = 'P' then property start
    else shortEscape start c

end Reader

end FlatTables.Pattern
