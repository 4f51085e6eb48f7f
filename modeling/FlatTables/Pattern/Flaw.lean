import FlatTables.Text.Split

/-!
# Flaws of pattern texts

A flaw says what is wrong with the text of a pattern and which part of the text it is about; where
two parts do not go together it names the earlier one too. `Flaw.display` shows the text with these
parts underlined and the reason below. A text of one line is shown set in; the lines of a longer
one are numbered, between rules, and a part that goes over several lines is told by its ends.
-/

set_option autoImplicit false
set_option relaxedAutoImplicit false

namespace FlatTables.Pattern

/-- A place in a text, by the number of characters before it, and by line and column from one. -/
structure Place where
  index : Nat := 0
  line : Nat := 1
  column : Nat := 1
deriving DecidableEq

namespace Place

/-- The place behind a character. -/
def next (place : Place) (c : Char) : Place :=
  if c = '\n' then ⟨place.index + 1, place.line + 1, 1⟩
  else ⟨place.index + 1, place.line, place.column + 1⟩

end Place

/-- A part of a text. -/
structure Span where
  start : Place
  stop : Place
deriving DecidableEq

/-- What can be wrong with the text of a pattern. -/
inductive FlawKind
  | unclosedGroup
  | unopenedGroup
  | missingRepeated
  | unclosedCount
  | emptyCount
  | invalidNumber
  | invalidCount
  | unclosedClass
  | reversedRange
  | rangeEndNotLiteral
  | invalidClassEscape
  | unfinishedEscape
  | unknownEscape
  | backreference
  | lookAround
  | emptyHex
  | invalidHex
  | invalidHexDigit
  | danglingNegation
  | duplicateFlag
  | repeatedNegation
  | unfinishedFlags
  | unknownFlag
  | duplicateName
  | emptyName
  | invalidNameCharacter
  | unfinishedName
  | unclosedWordEdge
  | unknownWordEdge
  | unfinishedWordEdge
  | invalidProperty
  | tooDeep
  | unknownProperty
  | unknownPropertyValue
  | unknownShorthand
  | caseUnavailable
  | wideNotAllowed
  | splitsCharacters
deriving DecidableEq

namespace FlawKind

/-- How many groups, brackets and repetitions may stand within one another. -/
def depthLimit : Nat := 250

/-- The reason in words. -/
def message : FlawKind → String
  | unclosedGroup => "unclosed group"
  | unopenedGroup => "unopened group"
  | missingRepeated => "repetition operator missing expression"
  | unclosedCount => "unclosed counted repetition"
  | emptyCount => "repetition quantifier expects a valid decimal"
  | invalidNumber => "decimal literal invalid"
  | invalidCount => "invalid repetition count range, the start must be <= the end"
  | unclosedClass => "unclosed character class"
  | reversedRange => "invalid character class range, the start must be <= the end"
  | rangeEndNotLiteral => "invalid range boundary, must be a literal"
  | invalidClassEscape => "invalid escape sequence found in character class"
  | unfinishedEscape => "incomplete escape sequence, reached end of pattern prematurely"
  | unknownEscape => "unrecognized escape sequence"
  | backreference => "backreferences are not supported"
  | lookAround => "look-around, including look-ahead and look-behind, is not supported"
  | emptyHex => "hexadecimal literal empty"
  | invalidHex => "hexadecimal literal is not a Unicode scalar value"
  | invalidHexDigit => "invalid hexadecimal digit"
  | danglingNegation => "dangling flag negation operator"
  | duplicateFlag => "duplicate flag"
  | repeatedNegation => "flag negation operator repeated"
  | unfinishedFlags => "expected flag but got end of regex"
  | unknownFlag => "unrecognized flag"
  | duplicateName => "duplicate capture group name"
  | emptyName => "empty capture group name"
  | invalidNameCharacter => "invalid capture group character"
  | unfinishedName => "unclosed capture group name"
  | unclosedWordEdge =>
    "special word boundary assertion is either unclosed or contains an invalid character"
  | unknownWordEdge =>
    "unrecognized special word boundary assertion, valid choices are: start, end, start-half " ++
      "or end-half"
  | unfinishedWordEdge =>
    "found either the beginning of a special word boundary or a bounded repetition on a \\b " ++
      "with an opening brace, but no closing brace"
  | invalidProperty => "invalid Unicode character class"
  | tooDeep =>
    "exceed the maximum number of nested parentheses/brackets (" ++ toString depthLimit ++ ")"
  | unknownProperty => "Unicode property not found"
  | unknownPropertyValue => "Unicode property value not found"
  | unknownShorthand =>
    "Unicode-aware Perl class not found (make sure the unicode-perl feature is enabled)"
  | caseUnavailable =>
    "Unicode-aware case insensitivity matching is not available (make sure the unicode-case " ++
      "feature is enabled)"
  | wideNotAllowed => "Unicode not allowed here"
  | splitsCharacters => "pattern can match invalid UTF-8"

end FlawKind

/-- A flaw in the text of a pattern. -/
structure Flaw where
  kind : FlawKind
  span : Span
  /-- The part that `span` does not go together with. -/
  earlier : Option Span := none
deriving DecidableEq

namespace Flaw

/-- The lines of a text without their ends; a line feed, with or without a carriage return before
it, ends a line. -/
def linesOf (text : String) : List String :=
  let pieces := text.toList.splitOn '\n'
  let whole := pieces.dropLast.map fun line ↦
    if line.getLast? = some '\r' then line.dropLast else line
  let rest := match pieces.getLast? with
    | some (c :: line) => [c :: line]
    | _ => []
  (whole ++ rest).map String.ofList

/-- Copies of a character. -/
def copies (count : Nat) (c : Char) : String :=
  String.ofList (List.replicate count c)

/-- The parts of the text that the flaw is about, the first one first. -/
def spans (flaw : Flaw) : List Span :=
  flaw.earlier.toList ++ [flaw.span]

/-- Whether a part begins and ends in the same line. -/
def isWithinLine (span : Span) : Bool :=
  span.start.line == span.stop.line

/-- The line of marks under the parts of a line; a part without characters has one mark. -/
def underline (margin : Nat) (parts : List Span) : String :=
  let row := parts.foldl
    (fun row span ↦
      row ++ List.replicate (span.start.column - 1 - row.length) ' ' ++
        List.replicate (max 1 (span.stop.column - span.start.column)) '^')
    ([] : List Char)
  copies margin ' ' ++ String.ofList row

/-- The lines of the text, each after its number if there are several and with the marks that
belong to it below. `width` is that of a number. -/
def marked (flaw : Flaw) (width : Nat) (text : String) : List String :=
  ((linesOf text).zipIdx 1).flatMap fun (line, number) ↦
    let digits := toString number
    let lead :=
      if width = 0 then copies 4 ' ' else copies (width - digits.length) ' ' ++ digits ++ ": "
    let parts := flaw.spans.filter fun span ↦ isWithinLine span && span.start.line == number
    let marks := if parts.isEmpty then [] else [underline lead.length parts]
    (lead ++ line) :: marks

/-- What is said about a part that goes over several lines. -/
def acrossLines (span : Span) : String :=
  "on line " ++ toString span.start.line ++ " (column " ++ toString span.start.column ++ ")" ++
    " through line " ++ toString span.stop.line ++
    " (column " ++ toString (span.stop.column - 1) ++ ")"

/-- The report on a flaw of a text, line by line. -/
def display (flaw : Flaw) (text : String) : String :=
  let count := (text.toList.splitOn '\n').length
  let body :=
    if count = 1 then flaw.marked 0 text
    else
      let rule := copies 79 '~'
      [rule] ++ flaw.marked (toString count).length text ++ [rule] ++
        (flaw.spans.filter fun span ↦ !isWithinLine span).map acrossLines
  "\n".intercalate (["regex parse error:"] ++ body ++ ["error: " ++ flaw.kind.message])

end Flaw

end FlatTables.Pattern
