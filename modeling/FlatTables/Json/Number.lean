import FlatTables.Json.Problem

/-!
# Numbers in JSON text

A number is an integer if it has neither point nor exponent and its digits fit in 64 bits; any
other number is a floating-point one. Digits after the first that no longer fit in 64 bits are
counted and dropped (`absorb`). A number beyond the floating-point range is refused, and one too
small for it is zero.
-/

set_option autoImplicit false
set_option relaxedAutoImplicit false

namespace FlatTables.Json

/-- A number that has been read. -/
inductive Number
  | integer (value : Int)
  | float (value : Float)

/-- The number as something found in a text. -/
def Number.found : Number → Found
  | .integer value => .integer value
  | .float value => .float value

namespace Number

/-- The decimal digits at the beginning of a text and what follows them. -/
def spanDigits : List Char → List Char × List Char
  | [] => ([], [])
  | c :: rest =>
    if c.isDigit then
      let (digits, after) := spanDigits rest
      (c :: digits, after)
    else ([], c :: rest)

/-- The value of a decimal digit. -/
def digit (c : Char) : Nat :=
  c.toNat - '0'.toNat

/-- Appends digits to a significand while it stays under `limit`, and counts those left over. -/
def absorb (limit significand : Nat) : List Char → Nat × Nat
  | [] => (significand, 0)
  | c :: rest =>
    let next := significand * 10 + digit c
    if next < limit then absorb limit next rest else (significand, rest.length + 1)

/-- Ten to a power that a floating-point number can hold. -/
def powerOfTen (power : Nat) : Float :=
  Float.ofScientific 1 false power

/-- Divides by powers of ten until the exponent is used up or nothing is left. Each round takes
308 off the exponent, and a 64-bit significand is zero after three of them. -/
def scaleDown (value : Float) (exponent : Nat) : Nat → Float
  | 0 => 0.0
  | rounds + 1 =>
    if exponent ≤ 308 then value / powerOfTen exponent
    else if value == 0.0 then value
    else scaleDown (value / powerOfTen 308) (exponent - 308) rounds

/-- The floating-point number `significand * 10 ^ exponent`, unless it is out of range. -/
def scale (significand : Nat) (exponent : Int) : Except Problem Float :=
  let value := Float.ofNat significand
  if exponent < 0 then .ok (scaleDown value (-exponent).toNat 5)
  else if significand = 0 then .ok value
  else if 308 < exponent then .error .malformed
  else
    let scaled := value * powerOfTen exponent.toNat
    if scaled.isInf then .error .malformed else .ok scaled

/-- Reads the exponent after its letter. An exponent whose digits do not fit in 31 bits makes a
number zero or puts it out of range. -/
def readExponent (significand : Nat) (exponent : Int) (text : List Char) :
    Except Problem (Float × List Char) := do
  let (negative, text) := match text with
    | '-' :: rest => (true, rest)
    | '+' :: rest => (false, rest)
    | text => (false, text)
  match text with
  | [] => .error .ended
  | c :: _ =>
    if !c.isDigit then .error .malformed
    else
      let (digits, rest) := spanDigits text
      match absorb (1 <<< 31) 0 digits with
      | (power, 0) =>
        let value ← scale significand (if negative then exponent - power else exponent + power)
        return (value, rest)
      | (_, _) =>
        if significand ≠ 0 ∧ !negative then .error .malformed else .ok (0.0, rest)

/-- Reads what may follow the digits of a floating-point number: an exponent or nothing. -/
def readScale (significand : Nat) (exponent : Int) (text : List Char) :
    Except Problem (Float × List Char) := do
  match text with
  | 'e' :: rest | 'E' :: rest => readExponent significand exponent rest
  | rest =>
    let value ← scale significand exponent
    return (value, rest)

/-- Reads what may follow the integer digits: a fraction, an exponent or nothing. `dropped`
counts the integer digits that the significand has no room for. -/
def readFraction (negative : Bool) (significand dropped : Nat) (text : List Char) :
    Except Problem (Number × List Char) := do
  let signed (result : Float × List Char) : Number × List Char :=
    (.float (if negative then -result.1 else result.1), result.2)
  match text with
  | '.' :: rest =>
    let (digits, after) := spanDigits rest
    if digits.isEmpty then
      if after.isEmpty then .error .ended else .error .malformed
    else
      let (significand, left) := absorb (1 <<< 64) significand digits
      let exponent : Int := (dropped : Int) - (digits.length - left : Nat)
      return signed (← readScale significand exponent after)
  | 'e' :: _ | 'E' :: _ => return signed (← readScale significand dropped text)
  | rest =>
    if 0 < dropped then return signed (← readScale significand dropped rest)
    else if !negative then return (.integer significand, rest)
    else if significand = 0 ∨ 1 <<< 63 < significand then
      return (.float (-Float.ofNat significand), rest)
    else return (.integer (-(significand : Int)), rest)

/-- Reads a number after its sign. A leading zero stands alone. -/
def read (negative : Bool) (text : List Char) : Except Problem (Number × List Char) :=
  match text with
  | [] => .error .ended
  | c :: rest =>
    if !c.isDigit then .error .malformed
    else
      let (digits, after) := spanDigits text
      if c = '0' ∧ (spanDigits rest).1 ≠ [] then .error .malformed
      else
        let (significand, dropped) := absorb (1 <<< 64) 0 digits
        readFraction negative significand dropped after

end Number

end FlatTables.Json
