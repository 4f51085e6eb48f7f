/-!
# The shortest decimal text of a floating-point number

A floating-point number stands for an interval of reals: those nearer to it than to its
neighbours, and the ends when its significand is even. `shortest` looks for the coarsest decimal
grid with a point in that interval. If a grid has one, then one of the two grid points next to
the number is one, so those two are all that is tested; of two the nearer is taken, and an even
one when both are as near. All of it is exact arithmetic on natural numbers.

`render` writes the digits with a point where the number is between 10⁻⁵ and 10¹⁶ and with a
signed exponent elsewhere.
-/

set_option autoImplicit false
set_option relaxedAutoImplicit false

namespace FlatTables.Shortest

/-- A positive number and the ends of its interval, in quarters of a power of two. -/
structure Interval where
  lower : Nat
  middle : Nat
  upper : Nat
  /-- The power of two that the three are multiplied by. -/
  exponent : Int
  /-- Whether the ends belong to the interval. -/
  closed : Bool

/-- The interval of a finite number, its sign ignored. Just above a power of two the numbers lie
twice as far apart as below it, so there the lower end is nearer. -/
def interval (x : Float) : Interval :=
  let bits := x.toBits.toNat
  let fraction := bits % (1 <<< 52)
  let scale := bits / (1 <<< 52) % (1 <<< 11)
  let significand := if scale = 0 then fraction else fraction + (1 <<< 52)
  let below := if fraction = 0 ∧ 1 < scale then 1 else 2
  { lower := 4 * significand - below
    middle := 4 * significand
    upper := 4 * significand + 2
    exponent := (max scale 1 : Nat) - 1077
    closed := significand % 2 == 0 }

/-- A point of the grid of multiples of `10 ^ power` in the interval, the nearest to the middle,
given as its multiple. -/
def gridPoint? (around : Interval) (power : Int) : Option Nat :=
  let up := Nat.pow 2 around.exponent.toNat * Nat.pow 10 (-power).toNat
  let step := Nat.pow 10 power.toNat * Nat.pow 2 (-around.exponent).toNat
  let inside (multiple : Nat) : Bool :=
    let point := multiple * step
    if around.closed then around.lower * up ≤ point && point ≤ around.upper * up
    else around.lower * up < point && point < around.upper * up
  let below := around.middle * up / step
  let above := below + 1
  match inside below, inside above with
  | true, true =>
    let toBelow := around.middle * up - below * step
    let toAbove := above * step - around.middle * up
    if toBelow < toAbove ∨ (toBelow = toAbove ∧ below % 2 = 0) then some below else some above
  | true, false => some below
  | false, true => some above
  | false, false => none

/-- The point of the coarsest grid that has one, from `10 ^ power` downward. -/
def coarsest (around : Interval) (power : Int) : Nat → Nat × Int
  | 0 => (0, 0)
  | tries + 1 =>
    match gridPoint? around power with
    | some multiple => (multiple, power)
    | none => coarsest around (power - 1) tries

/-- The digits and the power of ten of the shortest decimal that stands for a finite number that
is not zero. -/
def shortest (x : Float) : Nat × Int :=
  coarsest (interval x) 309 660

/-- The text of a finite number. -/
def render (x : Float) : String :=
  let bits := x.toBits.toNat
  let sign := if bits / (1 <<< 63) = 1 then "-" else ""
  if bits % (1 <<< 63) = 0 then sign ++ "0.0"
  else
    let (multiple, power) := shortest x
    let digits := (toString multiple).toList
    let point := digits.length + power
    let zeros (count : Int) := String.ofList (List.replicate count.toNat '0')
    let body :=
      if 0 ≤ power ∧ point ≤ 16 then String.ofList digits ++ zeros power ++ ".0"
      else if 0 < point ∧ point ≤ 16 then
        String.ofList (digits.take point.toNat) ++ "." ++ String.ofList (digits.drop point.toNat)
      else if -5 < point ∧ point ≤ 0 then "0." ++ zeros (-point) ++ String.ofList digits
      else
        let head := String.ofList (digits.take 1)
        let tail := String.ofList (digits.drop 1)
        head ++ (if tail.isEmpty then "" else "." ++ tail) ++ (if 0 < point then "e+" else "e") ++
          toString (point - 1)
    sign ++ body

end FlatTables.Shortest
