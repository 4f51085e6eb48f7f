import FlatTables.Pattern.Class
import FlatTables.Pattern.Group

/-!
# Pattern texts

`Tree.ofText` takes the text of a pattern apart. Parts stand one after the other, a bar begins an
alternative, parentheses hold a pattern of their own, and a sign or braces behind a part say how
often it comes. The groups that are open are kept in a stack, innermost first, so that the innermost
of those that are never closed is the one that is reported.
-/

set_option autoImplicit false
set_option relaxedAutoImplicit false

namespace FlatTables.Pattern

/-- A pattern whose end has not come yet. -/
structure OpenPattern where
  /-- Where the pattern begins. -/
  start : Place
  /-- The alternatives before the last one, last one first. -/
  branches : List Tree := []
  /-- Where the last alternative begins. -/
  branchStart : Place
  /-- The parts of the last alternative, last one first. -/
  parts : List Tree := []

namespace OpenPattern

/-- A pattern that begins at a place. -/
def startingAt (start : Place) : OpenPattern :=
  { start, branchStart := start }

/-- Adds a part. -/
def add (part : Tree) (opened : OpenPattern) : OpenPattern :=
  { opened with parts := part :: opened.parts }

/-- The last alternative, which ends at the given place. -/
def branch (stop : Place) (opened : OpenPattern) : Tree :=
  match opened.parts with
  | [] => .empty ⟨opened.branchStart, stop⟩
  | [part] => part
  | parts => .seq ⟨opened.branchStart, stop⟩ parts.reverse

/-- Begins another alternative behind a bar. -/
def beginBranch (bar next : Place) (opened : OpenPattern) : OpenPattern :=
  { opened with branches := opened.branch bar :: opened.branches, branchStart := next, parts := [] }

/-- The pattern, which ends at the given place. -/
def close (stop : Place) (opened : OpenPattern) : Tree :=
  match opened.branches with
  | [] => opened.branch stop
  | branches => .either ⟨opened.start, stop⟩ (opened.branch stop :: branches).reverse

end OpenPattern

/-- A group whose end has not come yet, with the pattern around it. -/
structure OpenGroup where
  around : OpenPattern
  /-- The opening parenthesis. -/
  opening : Span
  captures : Bool
  settings : Settings
  /-- Whether blanks mean nothing around the group. -/
  spaced : Bool

namespace Reader

/-- The part that an operator repeats, which has to be there, and the pattern without it. -/
def repeatedPart (opened : OpenPattern) : Reader (Tree × OpenPattern) := do
  match opened.parts with
  | [] | .setting .. :: _ => fail .missingRepeated (← spanHere)
  | part :: parts => return (part, { opened with parts })

/-- Passes over the mark of a repetition that prefers few rounds. -/
def passLazyMark : Reader Unit := do
  if (← next?) = some '?' then advance

/-- Reads a repetition sign, and puts the part it repeats into it. -/
def repetition (least : Nat) (most : Option Nat) (opened : OpenPattern) :
    Reader OpenPattern := do
  let (part, opened) ← repeatedPart opened
  advance
  passLazyMark
  return opened.add (.times ⟨part.span.start, ← here⟩ least most part)

/-- Reads a part of a counted repetition and the blanks behind it; the text has to go on. -/
def advanceCounted (start : Place) : Reader Unit := do
  if !(← advanceSpaced) then fail .unclosedCount (← spanFrom start)

/-- The value of a number that is needed. -/
def needed (number : Except Flaw Nat) : Reader Nat :=
  fun state ↦ number.map fun value ↦ (value, state)

/-- Reads how often a part comes, up to the closing brace. -/
def bounds (start : Place) : Reader (Nat × Option Nat) := do
  advanceCounted start
  let least ← count
  if ← atEnd then fail .unclosedCount (← spanFrom start)
  if (← next?) = some ',' then
    advanceCounted start
    if (← next?) = some '\x7d' then return (← needed least, none)
    else
      let least ← needed least
      let most ← needed (← count)
      return (least, some most)
  else
    let exact ← needed least
    return (exact, some exact)

/-- Reads a counted repetition, and puts the part it repeats into it. -/
def countedRepetition (opened : OpenPattern) : Reader OpenPattern := do
  let start ← here
  let (part, opened) ← repeatedPart opened
  let (least, most) ← bounds start
  if (← next?) ≠ some '\x7d' then fail .unclosedCount (← spanFrom start)
  let _ ← advanceSpaced
  passLazyMark
  if most.any (· < least) then fail .invalidCount (← spanFrom start)
  return opened.add (.times ⟨part.span.start, ← here⟩ least most part)

/-- Reads a character, an escape, a dot or an edge. -/
def primitive (c : Char) : Reader Primitive := do
  if c = '\\' then escape
  else
    let span ← spanNext
    advance
    match c with
    | '.' => return .dot span
    | '^' => return .edge span .lineStart
    | '$' => return .edge span .lineStop
    | char => return .literal { span, char }

/-- Says whether blanks are passed over from here on. -/
def setSpaced (spaced : Bool) : Reader Unit :=
  modify fun state ↦ { state with spaced }

/-- Reads the rest of a pattern within groups up to the end of the text; `fuel` bounds the number of
parts, bars and parentheses. -/
def patternRest : (fuel : Nat) → OpenPattern → List OpenGroup → Reader Tree
  | 0, opened, _ => return opened.close (← here)
  | fuel + 1, opened, groups => do
    passBlanks
    match ← next? with
    | none =>
      match groups with
      | [] => return opened.close (← here)
      | group :: _ => fail .unclosedGroup group.opening
    | some '(' =>
      let opening ← spanNext
      let spaced := (← get).spaced
      match ← groupOpening with
      | .flags span settings =>
        setSpaced ((settings.lookup .spaced).getD spaced)
        patternRest fuel (opened.add (.setting span settings)) groups
      | .group captures settings =>
        setSpaced ((settings.lookup .spaced).getD spaced)
        let group := { around := opened, opening, captures, settings, spaced }
        patternRest fuel (.startingAt (← here)) (group :: groups)
    | some ')' =>
      match groups with
      | [] => fail .unopenedGroup (← spanNext)
      | group :: groups =>
        let inner := opened.close (← here)
        advance
        setSpaced group.spaced
        let span ← spanFrom group.opening.start
        let tree := .group span group.captures group.settings inner
        patternRest fuel (group.around.add tree) groups
    | some '|' =>
      let bar ← here
      advance
      patternRest fuel (opened.beginBranch bar (← here)) groups
    | some '[' => patternRest fuel (opened.add (← classInBrackets)) groups
    | some '?' => patternRest fuel (← repetition 0 (some 1) opened) groups
    | some '*' => patternRest fuel (← repetition 0 none opened) groups
    | some '+' => patternRest fuel (← repetition 1 none opened) groups
    | some '\x7b' => patternRest fuel (← countedRepetition opened) groups
    | some c => patternRest fuel (opened.add (← primitive c).tree) groups

end Reader

namespace Tree

/-- What a text says as a pattern. -/
def ofText (text : String) : Except Flaw Tree := do
  let fuel := text.length + 1
  let (tree, _) ← (Reader.patternRest fuel (.startingAt {}) []).run { rest := text.toList }
  match tree.tooDeep? FlawKind.depthLimit with
  | some span => .error { kind := .tooDeep, span }
  | none => return tree

end Tree

end FlatTables.Pattern
