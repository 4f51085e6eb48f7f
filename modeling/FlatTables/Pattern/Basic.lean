import FlatTables.Pattern.CharSet

/-!
# Patterns

A pattern says what a part of a text looks like: which characters stand there one after the other,
which of several alternatives, how many times over, and what has to be at an edge (`Edge`).
`foundIn` says whether any part of a text looks like that.

A place in a text lies before its first character, between two of them or behind its last one, and
a set of places is a list of marks, one for each. A pattern turns the places where a part may begin
into those where it may end (`ends`). A repetition never needs more rounds than there are places:
a longer run of rounds stays somewhere, and may as well stay there more or less often.
-/

set_option autoImplicit false
set_option relaxedAutoImplicit false

namespace FlatTables

/-- An edge of a word, or what stands there. -/
inductive WordEdge
  /-- A word begins or ends. -/
  | edge
  | noEdge
  | start
  | stop
  /-- No word reaches up to here. -/
  | halfStart
  /-- No word goes on from here. -/
  | halfStop
deriving DecidableEq

/-- A condition on a place. -/
inductive Edge
  | textStart
  | textStop
  /-- A line begins; lines end with a line feed, or as `crlf` says with a carriage return, a line
  feed or both. -/
  | lineStart (crlf : Bool)
  | lineStop (crlf : Bool)
  | word (kind : WordEdge)
deriving DecidableEq

namespace Edge

/-- Whether a word edge lies between what belongs to words and what does not. -/
def wordHolds (before after : Bool) : WordEdge → Bool
  | .edge => before != after
  | .noEdge => before == after
  | .start => !before && after
  | .stop => before && !after
  | .halfStart => !before
  | .halfStop => !after

/-- Whether the condition holds between two characters; either may be missing at an end. -/
def holds (before after : Option Char) : Edge → Bool
  | textStart => before.isNone
  | textStop => after.isNone
  | lineStart false => before.isNone || before == some '\n'
  | lineStop false => after.isNone || after == some '\n'
  | lineStart true =>
    before.isNone || before == some '\n' || (before == some '\r' && after != some '\n')
  | lineStop true =>
    after.isNone || after == some '\r' || (after == some '\n' && before != some '\r')
  | word kind => wordHolds (before.any CharSet.word.has) (after.any CharSet.word.has) kind

end Edge

/-- What a part of a text looks like. -/
inductive Pattern
  | empty
  | one (set : CharSet)
  | edge (condition : Edge)
  | seq (first second : Pattern)
  | either (left right : Pattern)
  /-- The inner pattern, `least` times at least and `most` times at most. -/
  | times (least : Nat) (most : Option Nat) (inner : Pattern)
deriving DecidableEq

/-- A set of places, as a mark for each place in the text. -/
abbrev Places := List Bool

namespace Places

/-- The places in either of two sets. -/
def union (left right : Places) : Places :=
  List.zipWith or left right

/-- Every place of a text. -/
def all (text : List Char) : Places :=
  List.replicate (text.length + 1) true

/-- The places behind a character of the set, from those in front of it. -/
def step (set : CharSet) (text : List Char) (places : Places) : Places :=
  false :: List.zipWith (fun marked c ↦ marked && set.has c) places text

/-- The characters around each place of a text, with `before` in front of it. -/
def surroundings (before : Option Char) : List Char → List (Option Char × Option Char)
  | [] => [(before, none)]
  | c :: rest => (before, some c) :: surroundings (some c) rest

/-- The places where a condition holds. -/
def guard (condition : Edge) (text : List Char) (places : Places) : Places :=
  List.zipWith (fun marked (before, after) ↦ marked && condition.holds before after) places
    (surroundings none text)

/-- Applies a step some number of times; once it changes nothing, more of it would not either. -/
def repeated (step : Places → Places) : Nat → Places → Places
  | 0, places => places
  | count + 1, places =>
    let next := step places
    if next = places then places else repeated step count next

end Places

namespace Pattern

/-- The places of a text where a part may end that looks like the pattern and begins at one of the
given places. -/
def ends (text : List Char) : Pattern → Places → Places
  | empty, places => places
  | one set, places => places.step set text
  | edge condition, places => places.guard condition text
  | seq first second, places => ends text second (ends text first places)
  | either left right, places => (ends text left places).union (ends text right places)
  | times least most inner, places =>
    let enough := text.length + 1
    let certain := Places.repeated (fun places ↦ ends text inner places) (min least enough) places
    Places.repeated (fun places ↦ places.union (ends text inner places))
      (min (most.getD enough) enough - least) certain

/-- Whether some part of a text looks like the pattern. -/
def foundIn (pattern : Pattern) (text : String) : Bool :=
  (ends text.toList pattern (Places.all text.toList)).any id

end Pattern

end FlatTables
