import FlatTables.Pattern.Source

/-!
# What pattern texts stand for

`Tree.sense` turns the tree of a pattern text into a pattern. Flags decide what the parts stand for,
and hold from where they are set to the end of the group around them. Characters count unless the
flag for that is cleared; then bytes count, of which a pattern may take only those that make up
whole characters. Patterns know the classes of ASCII alone, so where characters of all scripts count
a class with a letter, a property, or a letter that stands for both cases is a flaw. The edges of
words are refused there only when the whole pattern is known (`Sense.needsScripts`), and so is a
pattern that takes too much memory (`Sense.size`).

`Pattern.ofText` is the pattern of a text, or the reason why there is none.
-/

set_option autoImplicit false
set_option relaxedAutoImplicit false

namespace FlatTables.Pattern

/-- The flags that hold at a place of a pattern. -/
structure Flags where
  caseless : Bool := false
  multiLine : Bool := false
  dotAll : Bool := false
  wide : Bool := true
  crlf : Bool := false

namespace Flags

/-- Sets or clears a flag; those that do not change what a part stands for are not kept. -/
def set (flags : Flags) : Flag × Bool → Flags
  | (.caseless, value) => { flags with caseless := value }
  | (.multiLine, value) => { flags with multiLine := value }
  | (.dotAll, value) => { flags with dotAll := value }
  | (.wide, value) => { flags with wide := value }
  | (.crlf, value) => { flags with crlf := value }
  | (.lazy, _) | (.spaced, _) => flags

end Flags

/-- What a part of a pattern text stands for. -/
structure Sense where
  pattern : Pattern
  /-- About how many bytes a machine for the pattern takes. -/
  size : Nat := 0
  /-- Whether edges of words in all scripts count. -/
  needsScripts : Bool := false

namespace Sense

/-- Nothing at all, which stands everywhere. -/
def empty : Sense where
  pattern := .empty

/-- The bytes that a state of the machine takes. -/
def stateSize : Nat := 32

/-- The bytes that the states for a choice take. -/
def choiceSize : Nat := 72

/-- A character of the set; a set with characters beyond ASCII takes many states. -/
def one (set : CharSet) : Sense where
  pattern := .one set
  size := if set.isAscii then stateSize + 8 else 368

/-- A character. -/
def char (c : Char) : Sense where
  pattern := .one (.single c)
  size := stateSize * c.utf8Size

/-- A condition on a place; its state counts for nothing, since repeating it adds none. -/
def edge (condition : Edge) : Sense where
  pattern := .edge condition

/-- The second after the first. -/
def append (first second : Sense) : Sense where
  pattern := .seq first.pattern second.pattern
  size := first.size + second.size
  needsScripts := first.needsScripts || second.needsScripts

/-- Either of two. -/
def or (left right : Sense) : Sense where
  pattern := .either left.pattern right.pattern
  size := left.size + right.size + choiceSize
  needsScripts := left.needsScripts || right.needsScripts

/-- A pattern some number of times over; the machine holds it that often. -/
def times (least : Nat) (most : Option Nat) (inner : Sense) : Sense :=
  if most = some 0 then empty
  else
    { inner with
      pattern := .times least most inner.pattern
      size := match most with
        | none => max least 1 * inner.size + choiceSize
        | some most => least * inner.size + (most - least) * (inner.size + choiceSize) }

/-- A group; one that captures takes note of its ends. -/
def group (captures : Bool) (inner : Sense) : Sense :=
  { inner with size := inner.size + if captures then 2 * stateSize else 0 }

end Sense

/-- Ends in a flaw. -/
def flawed {α : Type} (kind : FlawKind) (span : Span) : Except Flaw α :=
  .error { kind, span }

namespace Literal

/-- The character of a literal, which has to be one even where bytes count. -/
def value (literal : Literal) (flags : Flags) : Except Flaw Char :=
  if !flags.wide && literal.isByte && 0x7F < literal.char.toNat then
    flawed .splitsCharacters literal.span
  else return literal.char

/-- The character of a literal that stands for a set; where bytes count it has to be one byte. -/
def setValue (literal : Literal) (flags : Flags) : Except Flaw Char := do
  let c ← literal.value flags
  if !flags.wide && 0x7F < c.toNat then flawed .wideNotAllowed literal.span else return c

/-- What a literal stands for; one that stands for both cases is a set. -/
def sense (literal : Literal) (flags : Flags) : Except Flaw Sense := do
  if !flags.caseless then return .char (← literal.value flags)
  else if flags.wide then flawed .caseUnavailable literal.span
  else
    let c ← literal.setValue flags
    return if c.isAlpha then .one (.caseless (.single c)) else .char c

end Literal

namespace Shorthand

/-- The set of a class with a letter, in ASCII. -/
def asciiSet : Shorthand → CharSet
  | digit => .digit
  | space => .space
  | word => .word

/-- The set of a class with a letter. -/
def set (kind : Shorthand) (flags : Flags) (span : Span) (negated : Bool) : Except Flaw CharSet :=
  if flags.wide then flawed .unknownShorthand span
  else if negated then flawed .splitsCharacters span
  else return kind.asciiSet

end Shorthand

/-- The name of a property with nothing but its letters, in lower case and without the `is` that may
stand in front of it. -/
def plainPropertyName (name : String) : List Char :=
  let lower := name.toList.map Char.toLower
  let core := if ['i', 's'].isPrefixOf lower then lower.drop 2 else lower
  core.filter fun c ↦ c.toNat < 0x80 && c != ' ' && c != '_' && c != '-'

/-- The names that could be properties or values of one, and are taken as values. -/
def valueNames : List String :=
  ["cf", "sc", "lc"]

/-- The flaw of a property; without tables none is known. -/
def propertyFlaw {α : Type} (flags : Flags) (span : Span) (name : String) : Except Flaw α :=
  if !flags.wide then flawed .wideNotAllowed span
  else if valueNames.contains (String.ofList (plainPropertyName name)) then
    flawed .unknownPropertyValue span
  else flawed .unknownProperty span

namespace ClassTree

/-- A set in which letters stand for both cases if the flags say so. Where characters count that is
a flaw unless the set comes from other sets, which have been through this before. -/
def folded (flags : Flags) (span : Span) (composed : Bool) (set : CharSet) : Except Flaw CharSet :=
  if !flags.caseless then return set
  else if !flags.wide then return .caseless set
  else if composed then return set
  else flawed .caseUnavailable span

/-- A set or what is not in it; where bytes count the latter would take parts of characters. -/
def signed (flags : Flags) (span : Span) (negated : Bool) (set : CharSet) : Except Flaw CharSet :=
  if !negated then return set
  else if flags.wide then return .compl set
  else flawed .splitsCharacters span

/-- Whether no character and no range stands in a class by itself. -/
def isComposed : ClassTree → Bool
  | literal _ | range _ _ _ => false
  | union _ items => allComposed items
  | _ => true
where
  /-- `isComposed` on parts one after the other. -/
  allComposed : List ClassTree → Bool
    | [] => true
    | item :: items => isComposed item && allComposed items

/-- The set of an operation. -/
def operate (left right : CharSet) : ClassOperator → CharSet
  | .intersection => .inter left right
  | .difference => .diff left right
  | .symmetricDifference => .symmDiff left right

mutual

/-- The set of a class. -/
def set (flags : Flags) : ClassTree → Except Flaw CharSet
  | empty _ => return .empty
  | literal inner => return .single (← inner.setValue flags)
  | range _ first last => return .range (← first.setValue flags) (← last.setValue flags)
  | named span negated set => do signed flags span negated (← folded flags span false set)
  | shorthand span negated kind => kind.set flags span negated
  | property span name => propertyFlaw flags span name
  | bracket span negated content => do
    let inner ← set flags content
    signed flags span negated (← folded flags span content.isComposed inner)
  | union _ items => unionSet flags items
  | operation _ operator left right => do
    let leftSet ← set flags left
    let rightSet ← set flags right
    let rightSet ← folded flags right.span right.isComposed rightSet
    let leftSet ← folded flags left.span left.isComposed leftSet
    return operate leftSet rightSet operator

/-- The set of the parts of a class together. -/
def unionSet (flags : Flags) : List ClassTree → Except Flaw CharSet
  | [] => return .empty
  | item :: items => return .union (← set flags item) (← unionSet flags items)

end

end ClassTree

namespace EdgeName

/-- What an edge stands for. -/
def sense (flags : Flags) : EdgeName → Sense
  | textStart => .edge .textStart
  | textStop => .edge .textStop
  | lineStart => .edge (if flags.multiLine then .lineStart flags.crlf else .textStart)
  | lineStop => .edge (if flags.multiLine then .lineStop flags.crlf else .textStop)
  | word kind => { Sense.edge (.word kind) with needsScripts := flags.wide }

end EdgeName

/-- What a dot stands for. -/
def dotSet (flags : Flags) : CharSet :=
  if flags.dotAll then .compl .empty
  else if flags.crlf then .compl (.union (.single '\r') (.single '\n'))
  else .compl (.single '\n')

namespace Tree

mutual

/-- What a part of a pattern stands for, with the flags that hold behind it. -/
def sense : Tree → Flags → Except Flaw (Sense × Flags)
  | empty _, flags => return (.empty, flags)
  | setting _ settings, flags => return (.empty, settings.foldl Flags.set flags)
  | literal inner, flags => return (← inner.sense flags, flags)
  | dot span, flags =>
    if flags.wide then return (.one (dotSet flags), flags)
    else flawed .splitsCharacters span
  | edge _ name, flags => return (name.sense flags, flags)
  | shorthand span negated kind, flags =>
    return (.one (← kind.set flags span negated), flags)
  | property span name, flags => propertyFlaw flags span name
  | bracket span negated content, flags => do
    let set ← ClassTree.set flags (.bracket span negated content)
    return (.one set, flags)
  | times _ least most inner, flags => do
    let (inner, flags) ← sense inner flags
    return (inner.times least most, flags)
  | group _ captures settings inner, flags => do
    let (inner, _) ← sense inner (settings.foldl Flags.set flags)
    return (inner.group captures, flags)
  | either _ branches, flags => branchesSense branches flags
  | seq _ parts, flags => partsSense parts flags

/-- What parts one after the other stand for. -/
def partsSense : List Tree → Flags → Except Flaw (Sense × Flags)
  | [], flags => return (.empty, flags)
  | part :: parts, flags => do
    let (first, flags) ← sense part flags
    let (rest, flags) ← partsSense parts flags
    return (first.append rest, flags)

/-- What alternatives stand for; flags set in one hold in those behind it. -/
def branchesSense : List Tree → Flags → Except Flaw (Sense × Flags)
  | [], flags => return (.empty, flags)
  | [branch], flags => sense branch flags
  | branch :: branches, flags => do
    let (first, flags) ← sense branch flags
    let (rest, flags) ← branchesSense branches flags
    return (first.or rest, flags)

end

end Tree

/-- The bytes that a machine for a pattern may take. -/
def sizeLimit : Nat := 10485760

/-- The pattern of a text, or the reason why there is none. -/
def ofText (text : String) : Except String Pattern :=
  match Tree.ofText text >>= fun tree ↦ tree.sense {} with
  | .error flaw => .error (flaw.display text)
  | .ok (sense, _) =>
    if sizeLimit < sense.size then
      .error ("Compiled regex exceeds size limit of " ++ toString sizeLimit ++ " bytes.")
    else if sense.needsScripts then .error "error building NFA"
    else .ok sense.pattern

end FlatTables.Pattern
