/-!
# Sets of characters

A set is written down as it is put together: from ranges, by the operations on sets, and by adding
the other case of every ASCII letter. `has` says what is in it.
-/

set_option autoImplicit false
set_option relaxedAutoImplicit false

namespace FlatTables

/-- A set of characters. -/
inductive CharSet
  | empty
  | range (first last : Char)
  | union (left right : CharSet)
  | inter (left right : CharSet)
  | diff (left right : CharSet)
  /-- What is in one of the two and not in the other. -/
  | symmDiff (left right : CharSet)
  | compl (inner : CharSet)
  /-- The set with the other case of its ASCII letters. -/
  | caseless (inner : CharSet)
deriving DecidableEq

namespace CharSet

/-- Whether a character is in the set. -/
def has : CharSet → Char → Bool
  | empty, _ => false
  | range first last, c => first ≤ c && c ≤ last
  | union left right, c => left.has c || right.has c
  | inter left right, c => left.has c && right.has c
  | diff left right, c => left.has c && !right.has c
  | symmDiff left right, c => left.has c != right.has c
  | compl inner, c => !inner.has c
  | caseless inner, c => inner.has c.toLower || inner.has c.toUpper

/-- Whether the set is seen to hold no character beyond ASCII. -/
def isAscii : CharSet → Bool
  | empty => true
  | range _ last => last.toNat < 0x80
  | union left right | symmDiff left right => left.isAscii && right.isAscii
  | inter left right => left.isAscii || right.isAscii
  | diff left _ => left.isAscii
  | compl _ => false
  | caseless inner => inner.isAscii

/-- The set of one character. -/
def single (c : Char) : CharSet :=
  range c c

/-- The set of the characters in some ranges, both ends included. -/
def ofRanges (ranges : List (Char × Char)) : CharSet :=
  ranges.foldl (fun set (first, last) ↦ union set (range first last)) empty

/-! ### ASCII -/

/-- The decimal digits. -/
def digit : CharSet :=
  ofRanges [('0', '9')]

/-- The blanks of ASCII. -/
def space : CharSet :=
  ofRanges [('\t', '\r'), (' ', ' ')]

/-- The characters that words are made of. -/
def word : CharSet :=
  ofRanges [('0', '9'), ('A', 'Z'), ('_', '_'), ('a', 'z')]

/-- The sets that have a name. -/
def named : List (String × CharSet) :=
  [("alnum", ofRanges [('0', '9'), ('A', 'Z'), ('a', 'z')]),
   ("alpha", ofRanges [('A', 'Z'), ('a', 'z')]),
   ("ascii", ofRanges [('\x00', '\x7f')]),
   ("blank", ofRanges [('\t', '\t'), (' ', ' ')]),
   ("cntrl", ofRanges [('\x00', '\x1f'), ('\x7f', '\x7f')]),
   ("digit", digit),
   ("graph", ofRanges [('!', '~')]),
   ("lower", ofRanges [('a', 'z')]),
   ("print", ofRanges [(' ', '~')]),
   ("punct", ofRanges [('!', '/'), (':', '@'), ('[', '\x60'), ('\x7b', '~')]),
   ("space", space),
   ("upper", ofRanges [('A', 'Z')]),
   ("word", word),
   ("xdigit", ofRanges [('0', '9'), ('A', 'F'), ('a', 'f')])]

end CharSet

end FlatTables
