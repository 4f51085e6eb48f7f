import FlatTables.Pattern.Basic
import FlatTables.Pattern.Flaw

/-!
# What the text of a pattern says

`Tree` is the text of a pattern taken apart, before the flags decide what its parts stand for. Its
parts know where in the text they are, since some of them turn out to be flaws only then. A class
in brackets has a tree of its own, `ClassTree`.

`Tree.tooDeep?` finds the first part that stands within too many others.
-/

set_option autoImplicit false
set_option relaxedAutoImplicit false

namespace FlatTables.Pattern

/-- A flag that decides what the parts of a pattern stand for. -/
inductive Flag
  /-- Letters stand for both cases. -/
  | caseless
  /-- The edges of lines count, not only those of the text. -/
  | multiLine
  /-- A dot stands for line ends too. -/
  | dotAll
  /-- Repetitions prefer few rounds. -/
  | lazy
  /-- Characters count, not bytes. -/
  | wide
  /-- A carriage return ends a line too. -/
  | crlf
  /-- Blanks and comments mean nothing. -/
  | spaced
deriving DecidableEq

namespace Flag

/-- The letters of the flags. -/
def letters : List (Char × Flag) :=
  [('i', caseless), ('m', multiLine), ('s', dotAll), ('U', lazy), ('u', wide), ('R', crlf),
   ('x', spaced)]

end Flag

/-- Flags with whether they are set or cleared. -/
abbrev Settings := List (Flag × Bool)

/-- A character that stands for itself. -/
structure Literal where
  span : Span
  char : Char
  /-- Whether it is given as a byte, by two hexadecimal digits. -/
  isByte : Bool := false

/-- A class of characters with a letter. -/
inductive Shorthand
  | digit
  | space
  | word
deriving DecidableEq

/-- An edge as it is written; the flags decide what counts. -/
inductive EdgeName
  | lineStart
  | lineStop
  | textStart
  | textStop
  | word (kind : WordEdge)
deriving DecidableEq

/-- An operation between the parts of a class. -/
inductive ClassOperator
  | intersection
  | difference
  | symmetricDifference
deriving DecidableEq

/-- What stands in the brackets of a class. -/
inductive ClassTree
  | empty (span : Span)
  | literal (literal : Literal)
  | range (span : Span) (first last : Literal)
  | named (span : Span) (negated : Bool) (set : CharSet)
  | shorthand (span : Span) (negated : Bool) (kind : Shorthand)
  | property (span : Span) (name : String)
  | bracket (span : Span) (negated : Bool) (content : ClassTree)
  | union (span : Span) (items : List ClassTree)
  | operation (span : Span) (operator : ClassOperator) (left right : ClassTree)

/-- What the text of a pattern says. -/
inductive Tree
  | empty (span : Span)
  | setting (span : Span) (settings : Settings)
  | literal (literal : Literal)
  | dot (span : Span)
  | edge (span : Span) (name : EdgeName)
  | shorthand (span : Span) (negated : Bool) (kind : Shorthand)
  | property (span : Span) (name : String)
  | bracket (span : Span) (negated : Bool) (content : ClassTree)
  | times (span : Span) (least : Nat) (most : Option Nat) (inner : Tree)
  | group (span : Span) (captures : Bool) (settings : Settings) (inner : Tree)
  | either (span : Span) (branches : List Tree)
  | seq (span : Span) (parts : List Tree)

namespace ClassTree

/-- The part of the text. -/
def span : ClassTree → Span
  | literal inner => inner.span
  | empty span | range span _ _ | named span _ _ | shorthand span _ _ | property span _
  | bracket span _ _ | union span _ | operation span _ _ _ => span

/-- What stands one after the other in a class, up to a place. The items come last one first. -/
def ofItems (start : Place) : List ClassTree → ClassTree
  | [] => empty ⟨start, start⟩
  | [item] => item
  | last :: items =>
    let first := (items.getLast?.getD last).span.start
    union ⟨first, last.span.stop⟩ (last :: items).reverse

mutual

/-- The first part that stands within more than `depth` others. -/
def tooDeep? : (depth : Nat) → ClassTree → Option Span
  | 0, bracket span _ _ | 0, union span _ | 0, operation span _ _ _ => some span
  | depth + 1, bracket _ _ content => tooDeep? depth content
  | depth + 1, union _ items => anyTooDeep? depth items
  | depth + 1, operation _ _ left right => tooDeep? depth left <|> tooDeep? depth right
  | _, _ => none

/-- `tooDeep?` on parts one after the other. -/
def anyTooDeep? : (depth : Nat) → List ClassTree → Option Span
  | _, [] => none
  | depth, item :: items => tooDeep? depth item <|> anyTooDeep? depth items

end

end ClassTree

namespace Tree

/-- The part of the text. -/
def span : Tree → Span
  | literal inner => inner.span
  | empty span | setting span _ | dot span | edge span _ | shorthand span _ _ | property span _
  | bracket span _ _ | times span _ _ _ | group span _ _ _ | either span _ | seq span _ => span

mutual

/-- The first part that stands within more than `depth` others. -/
def tooDeep? : (depth : Nat) → Tree → Option Span
  | 0, bracket span _ _ | 0, times span _ _ _ | 0, group span _ _ _ | 0, either span _
  | 0, seq span _ => some span
  | depth + 1, bracket _ _ content => content.tooDeep? depth
  | depth + 1, times _ _ _ inner => tooDeep? depth inner
  | depth + 1, group _ _ _ inner => tooDeep? depth inner
  | depth + 1, either _ branches => anyTooDeep? depth branches
  | depth + 1, seq _ parts => anyTooDeep? depth parts
  | _, _ => none

/-- `tooDeep?` on parts one after the other. -/
def anyTooDeep? : (depth : Nat) → List Tree → Option Span
  | _, [] => none
  | depth, part :: parts => tooDeep? depth part <|> anyTooDeep? depth parts

end

end Tree

end FlatTables.Pattern
