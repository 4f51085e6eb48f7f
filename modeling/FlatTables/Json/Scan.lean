import FlatTables.Json.Problem

/-!
# Strings in JSON text

`scanString` reads a string after its opening quote and decodes it. It goes through the text once
and keeps in `StringState` what an escape has begun. A character outside the basic plane is
written as two escapes, a high and a low surrogate, and neither may stand alone. A hexadecimal
escape needs four more bytes of text: with fewer left the text ends too early, whatever they are.

`skipString` goes through a string that nobody wants and accepts lone surrogates.
-/

set_option autoImplicit false
set_option relaxedAutoImplicit false

namespace FlatTables.Json

/-- The value of a hexadecimal digit. -/
def hexDigit? (c : Char) : Option Nat :=
  if c.isDigit then some (c.toNat - '0'.toNat)
  else if 'a' ≤ c ∧ c ≤ 'f' then some (c.toNat - 'a'.toNat + 10)
  else if 'A' ≤ c ∧ c ≤ 'F' then some (c.toNat - 'A'.toNat + 10)
  else none

/-- The character that a letter stands for after a backslash. -/
def escapedChar? : Char → Option Char
  | '"' => some '"'
  | '\\' => some '\\'
  | '/' => some '/'
  | 'b' => some '\x08'
  | 'f' => some '\x0c'
  | 'n' => some '\n'
  | 'r' => some '\r'
  | 't' => some '\t'
  | _ => none

/-- The number of bytes that a text takes. -/
def byteLength (text : List Char) : Nat :=
  text.foldl (fun total c ↦ total + c.utf8Size) 0

/-- The problem of a hexadecimal escape of which `done` digits are good and the rest is `text`. -/
def badEscape (done : Nat) (text : List Char) : Problem :=
  if done + byteLength text < 4 then .ended else .malformed

/-- What the characters of a string read so far leave open. -/
inductive StringState
  | plain
  /-- After a backslash. -/
  | escape
  /-- After `done` digits of a hexadecimal escape, which follows the surrogate `high` if any. -/
  | hex (high : Option Nat) (value done : Nat)
  /-- After a high surrogate. -/
  | surrogate (high : Nat)
  /-- After a high surrogate and a backslash. -/
  | surrogateEscape (high : Nat)

/-- What a complete hexadecimal escape adds to a string: a character, or a high surrogate to be
completed. -/
def completeHex : Option Nat → Nat → Except Problem (Char ⊕ Nat)
  | none, value =>
    if 0xDC00 ≤ value ∧ value ≤ 0xDFFF then .error .malformed
    else if 0xD800 ≤ value ∧ value ≤ 0xDBFF then .ok (.inr value)
    else .ok (.inl (Char.ofNat value))
  | some high, value =>
    if 0xDC00 ≤ value ∧ value ≤ 0xDFFF then
      .ok (.inl (Char.ofNat ((high - 0xD800) * 0x400 + (value - 0xDC00) + 0x10000)))
    else .error .malformed

/-- Decodes a string up to its closing quote. `text` is what has been decoded, newest first. -/
def scanString : StringState → List Char → List Char → Except Problem (String × List Char)
  | _, _, [] => .error .ended
  | .plain, text, c :: rest =>
    if c = '"' then .ok (String.ofList text.reverse, rest)
    else if c = '\\' then scanString .escape text rest
    else if c < ' ' then .error .malformed
    else scanString .plain (c :: text) rest
  | .escape, text, c :: rest =>
    if c = 'u' then scanString (.hex none 0 0) text rest
    else
      match escapedChar? c with
      | some decoded => scanString .plain (decoded :: text) rest
      | none => .error .malformed
  | .hex high value done, text, c :: rest =>
    match hexDigit? c with
    | none => .error (badEscape done (c :: rest))
    | some digit =>
      let value := value * 16 + digit
      if done < 3 then scanString (.hex high value (done + 1)) text rest
      else
        match completeHex high value with
        | .error problem => .error problem
        | .ok (.inl decoded) => scanString .plain (decoded :: text) rest
        | .ok (.inr high) => scanString (.surrogate high) text rest
  | .surrogate high, text, c :: rest =>
    if c = '\\' then scanString (.surrogateEscape high) text rest else .error .malformed
  | .surrogateEscape high, text, c :: rest =>
    if c = 'u' then scanString (.hex (some high) 0 0) text rest else .error .malformed

end FlatTables.Json
