/-!
# Decimal numerals

An optional sign followed by decimal digits, of any length. `Numeral.parse?` keeps the digits
without leading zeros and gives zero no sign, so a number has one numeral, and numerals are
ordered by sign, length and digits without ever computing the number they stand for.

`readInt64?` reads the same texts digit by digit into a bounded number and stops where the range
of 64-bit integers is left.
-/

set_option autoImplicit false
set_option relaxedAutoImplicit false

namespace FlatTables

/-- The least 64-bit integer. -/
def minInt64 : Int := -9223372036854775808

/-- The greatest 64-bit integer. -/
def maxInt64 : Int := 9223372036854775807

/-- A number kept only if it is a 64-bit integer. -/
def inInt64? (value : Int) : Option Int :=
  if minInt64 ≤ value ∧ value ≤ maxInt64 then some value else none

/-- Parts an optional sign from the rest of a text; the flag says that the sign is a minus. -/
def splitSign : List Char → Bool × List Char
  | '-' :: rest => (true, rest)
  | '+' :: rest => (false, rest)
  | text => (false, text)

/-- The value of a decimal digit. -/
def digitValue (c : Char) : Nat :=
  c.toNat - '0'.toNat

/-- A decimal integer of any length. -/
structure Numeral where
  negative : Bool
  /-- The decimal digits, most significant first, without leading zeros. -/
  digits : List Char
deriving DecidableEq

namespace Numeral

/-- Reads an optional sign and one or more decimal digits, and nothing else. -/
def parse? (text : String) : Option Numeral :=
  let (negative, digits) := splitSign text.toList
  if digits.isEmpty || !digits.all Char.isDigit then none
  else
    let significant := digits.dropWhile (· == '0')
    some ⟨negative && !significant.isEmpty, significant⟩

/-- The number that the digits stand for. -/
def magnitude (numeral : Numeral) : Nat :=
  numeral.digits.foldl (fun value c ↦ value * 10 + digitValue c) 0

/-- The integer that the numeral stands for. -/
def value (numeral : Numeral) : Int :=
  if numeral.negative then -numeral.magnitude else numeral.magnitude

/-- The value as a 64-bit integer. No numeral of more than nineteen digits is in range. -/
def toInt64? (numeral : Numeral) : Option Int :=
  if numeral.digits.length > 19 then none else inInt64? numeral.value

/-- Digit strings by length, then digit by digit. -/
def compareDigits (left right : List Char) : Ordering :=
  (compare left.length right.length).then (compareOfLessAndEq left right)

/-- The order of the integers that the numerals stand for. -/
protected def compare (left right : Numeral) : Ordering :=
  match left.negative, right.negative with
  | false, false => compareDigits left.digits right.digits
  | true, true => compareDigits right.digits left.digits
  | true, false => .lt
  | false, true => .gt

end Numeral

/-- One more digit of a number that must stay a 64-bit integer; a negative number grows
downward, so that its least value can be reached. -/
def appendDigit? (negative : Bool) (value : Int) (c : Char) : Option Int :=
  if c.isDigit then
    let scaled := value * 10
    inInt64? (if negative then scaled - digitValue c else scaled + digitValue c)
  else none

/-- A 64-bit integer in decimal, with an optional sign. -/
def readInt64? (text : String) : Option Int :=
  let (negative, digits) := splitSign text.toList
  if digits.isEmpty then none else digits.foldlM (appendDigit? negative) 0

end FlatTables
