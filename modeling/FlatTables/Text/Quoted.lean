import FlatTables.Text.Unprintable

/-!
# Quoted text in messages

A text shown between double quotes so that the reader sees every character of it: the quote and
the backslash stand behind a backslash, line feed, carriage return, tab and NUL have a letter of
their own, and any other character without a picture is shown by its number in hexadecimal.
-/

set_option autoImplicit false
set_option relaxedAutoImplicit false

namespace FlatTables

/-- What stands for a character between the quotes. -/
def showChar (c : Char) : List Char :=
  match c with
  | '"' => ['\\', '"']
  | '\\' => ['\\', '\\']
  | '\n' => ['\\', 'n']
  | '\r' => ['\\', 'r']
  | '\t' => ['\\', 't']
  | '\x00' => ['\\', '0']
  | c =>
    if isUnprintable c then ['\\', 'u', '\x7b'] ++ Nat.toDigits 16 c.toNat ++ ['\x7d'] else [c]

/-- The text between double quotes. -/
def quoted (text : String) : String :=
  String.ofList ('"' :: (text.toList.flatMap showChar ++ ['"']))

/-- An optional text: `Some` with the quoted text, or `None`. -/
def quotedOption : Option String → String
  | some text => "Some(" ++ quoted text ++ ")"
  | none => "None"

end FlatTables
