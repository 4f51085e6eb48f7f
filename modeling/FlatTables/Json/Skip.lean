import FlatTables.Json.Scan

/-!
# Values that nobody wants

A field with an unknown name is passed over. Its value has to be JSON, but it may be nested to
any depth, its numbers may be out of range and its strings may hold lone surrogates. `Skip.step`
reads one character; what is open around the place is kept as a list of frames, so depth costs no
more than length. The value is over where its last character is, except for a number, which is
over where the next character cannot continue it; that character is not consumed.
-/

set_option autoImplicit false
set_option relaxedAutoImplicit false

namespace FlatTables.Json.Skip

/-- A bracket that is open. -/
inductive Frame
  | array
  | object
deriving DecidableEq

/-- What may come next in a number. -/
inductive Digits
  /-- After the minus: a digit. -/
  | sign
  /-- After a leading zero: no digit. -/
  | zero
  | integer
  /-- After the point: a digit. -/
  | point
  | fraction
  /-- After the letter of the exponent: a sign or a digit. -/
  | exponent
  /-- After the sign of the exponent: a digit. -/
  | exponentSign
  | power
deriving DecidableEq

/-- What may come next in a string. -/
inductive Body
  | plain
  | escape
  /-- After `done` digits of a hexadecimal escape. -/
  | hex (done : Nat)
deriving DecidableEq

/-- What may come next. -/
inductive State
  /-- A value. -/
  | value
  /-- A value, or the end of an array that has just been opened. -/
  | valueOrEnd
  /-- The name of a field. -/
  | key
  /-- The name of a field, or the end of an object that has just been opened. -/
  | keyOrEnd
  /-- The colon behind a name. -/
  | colon
  /-- What may follow a value within the innermost frame. -/
  | afterValue
  /-- The rest of `null`, `true` or `false`. -/
  | literal (left : List Char)
  | number (digits : Digits)
  /-- The rest of a string, which is the name of a field when `isKey` is set. -/
  | string (isKey : Bool) (body : Body)
deriving DecidableEq

/-- The blank characters of JSON. -/
def isBlank (c : Char) : Bool :=
  c == ' ' || c == '\n' || c == '\t' || c == '\r'

/-- What a character leads to. -/
inductive Move
  | next (frames : List Frame) (state : State)
  /-- The value was over before this character. -/
  | over
  | problem (problem : Problem)

/-- The state after a bracket has been closed or a value has ended without a frame left open. -/
def closed (frames : List Frame) : Move :=
  .next frames .afterValue

/-- The beginning of a value. -/
def openValue (frames : List Frame) (c : Char) : Move :=
  match c with
  | 'n' => .next frames (.literal ['u', 'l', 'l'])
  | 't' => .next frames (.literal ['r', 'u', 'e'])
  | 'f' => .next frames (.literal ['a', 'l', 's', 'e'])
  | '-' => .next frames (.number .sign)
  | '0' => .next frames (.number .zero)
  | '"' => .next frames (.string false .plain)
  | '[' => .next (.array :: frames) .valueOrEnd
  | '\x7b' => .next (.object :: frames) .keyOrEnd
  | c => if c.isDigit then .next frames (.number .integer) else .problem .malformed

/-- A character behind a value. -/
def follow (frames : List Frame) (c : Char) : Move :=
  match frames with
  | [] => .over
  | frame :: outer =>
    if isBlank c then .next frames .afterValue
    else
      match frame, c with
      | .array, ',' => .next frames .value
      | .object, ',' => .next frames .key
      | .array, ']' => closed outer
      | .object, '\x7d' => closed outer
      | _, _ => .problem .malformed

/-- A character of a number, or the first one behind it. -/
def number (frames : List Frame) (digits : Digits) (c : Char) : Move :=
  let stay (digits : Digits) : Move := .next frames (.number digits)
  let fractional (integral : Bool) : Move :=
    if c = '.' ∧ integral then stay .point
    else if c = 'e' ∨ c = 'E' then stay .exponent
    else follow frames c
  match digits with
  | .sign =>
    if c = '0' then stay .zero else if c.isDigit then stay .integer else .problem .malformed
  | .zero => if c.isDigit then .problem .malformed else fractional true
  | .integer => if c.isDigit then stay .integer else fractional true
  | .point => if c.isDigit then stay .fraction else .problem .malformed
  | .fraction => if c.isDigit then stay .fraction else fractional false
  | .exponent =>
    if c = '+' ∨ c = '-' then stay .exponentSign
    else if c.isDigit then stay .power else .problem .malformed
  | .exponentSign => if c.isDigit then stay .power else .problem .malformed
  | .power => if c.isDigit then stay .power else follow frames c

/-- A character of a string; `rest` is the text behind it. -/
def string (frames : List Frame) (isKey : Bool) (body : Body) (c : Char) (rest : List Char) :
    Move :=
  let stay (body : Body) : Move := .next frames (.string isKey body)
  match body with
  | .plain =>
    if c = '"' then if isKey then .next frames .colon else closed frames
    else if c = '\\' then stay .escape
    else if c < ' ' then .problem .malformed
    else stay .plain
  | .escape =>
    if c = 'u' then stay (.hex 0)
    else if (escapedChar? c).isSome then stay .plain else .problem .malformed
  | .hex done =>
    if (hexDigit? c).isNone then .problem (badEscape done (c :: rest))
    else if done < 3 then stay (.hex (done + 1)) else stay .plain

/-- Reads one character; `rest` is the text behind it. -/
def step (frames : List Frame) (state : State) (c : Char) (rest : List Char) : Move :=
  match state with
  | .afterValue => follow frames c
  | .literal left =>
    match left with
    | [] => follow frames c
    | [last] => if c = last then closed frames else .problem .malformed
    | expected :: more =>
      if c = expected then .next frames (.literal more) else .problem .malformed
  | .number digits => number frames digits c
  | .string isKey body => string frames isKey body c rest
  | .value => if isBlank c then .next frames .value else openValue frames c
  | .valueOrEnd =>
    if isBlank c then .next frames .valueOrEnd
    else if c = ']' then closed frames.tail else openValue frames c
  | .key =>
    if isBlank c then .next frames .key
    else if c = '"' then .next frames (.string true .plain) else .problem .malformed
  | .keyOrEnd =>
    if isBlank c then .next frames .keyOrEnd
    else if c = '\x7d' then closed frames.tail
    else if c = '"' then .next frames (.string true .plain)
    else .problem .malformed
  | .colon =>
    if isBlank c then .next frames .colon
    else if c = ':' then .next frames .value else .problem .malformed

/-- The end of the text. A number can be over there, but one that still needs a digit is not
JSON; anything else has been cut off. -/
def atEnd (frames : List Frame) : State → Option Problem
  | .number .sign | .number .point | .number .exponent | .number .exponentSign => some .malformed
  | .number _ | .afterValue => if frames.isEmpty then none else some .ended
  | _ => some .ended

/-- Passes over the rest of a value and gives the text behind it. -/
def run : List Frame → State → List Char → Except Problem (List Char)
  | frames, state, [] =>
    match atEnd frames state with
    | none => .ok []
    | some problem => .error problem
  | frames, state, c :: rest =>
    match step frames state c rest with
    | .next frames state => run frames state rest
    | .over => .ok (c :: rest)
    | .problem problem => .error problem

end FlatTables.Json.Skip

namespace FlatTables.Json

/-- Passes over one value, blanks before it included, and gives the text behind it. -/
def skipValue (text : List Char) : Except Problem (List Char) :=
  Skip.run [] .value text

end FlatTables.Json
