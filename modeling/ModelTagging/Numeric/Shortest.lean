import ModelTagging.Numeric.Binary64

/-!
# Shortest decimal text of a double

The text of a finite double carries the fewest decimal digits that round
back to it, and of the numerals with that many digits the one nearest to it.
The search walks the decimal grids from one digit to seventeen and tests the
two grid points around the exact value against the interval of sizes that
round to it. How the digits are laid out is one record, separate from the
search for them.
-/

namespace ModelTagging

namespace Magnitude

/-- Four times the size and its two rounding bounds over a common
denominator: lower bound, size, upper bound, denominator. The gap below a
least normal mantissa is half the gap above it. -/
def roundingInterval (x : Magnitude) : Nat × Nat × Nat × Nat :=
  let scale := twoTo (x.exponent - 2).toNat
  let below := if x.mantissa = twoTo 52 ∧ -1074 < x.exponent then 1 else 2
  ((4 * x.mantissa - below) * scale, 4 * x.mantissa * scale, (4 * x.mantissa + 2) * scale,
    twoTo (2 - x.exponent).toNat)

/-- Whether `digits * 10 ^ power` rounds to this magnitude. The bounds
themselves do so exactly when the mantissa is even. -/
def roundsFrom (x : Magnitude) (digits : Nat) (power : Int) : Bool :=
  let (low, _, high, den) := x.roundingInterval
  let point := digits * tenTo power.toNat * den
  let unit := tenTo (-power).toNat
  if x.mantissa % 2 = 0 then low * unit ≤ point ∧ point ≤ high * unit
  else low * unit < point ∧ point < high * unit

/-- The position of the leading decimal digit of a positive size: the least
`p` with the size below `10 ^ p`. -/
def decimalPosition (x : Magnitude) : Int :=
  (digitCount (x.numerator * tenTo 400 / x.denominator) : Int) - 400

/-- The numeral of `count` digits that rounds to this magnitude and lies
nearest to it, if the grid of that many digits has one. -/
def numeralOf? (x : Magnitude) (count : Nat) : Option (Nat × Int) :=
  let power := x.decimalPosition - count
  let num := x.numerator * tenTo (-power).toNat
  let den := x.denominator * tenTo power.toNat
  let low := num / den
  match x.roundsFrom low power, x.roundsFrom (low + 1) power with
  | true, true => some (roundQuotient num den, power)
  | true, false => some (low, power)
  | false, true => some (low + 1, power)
  | false, false => none

/-- The shortest numeral that rounds to this magnitude, as a natural and a
power of ten. Seventeen digits always suffice, so the last alternative is
never reached. -/
def shortest (x : Magnitude) : Nat × Int :=
  if x.mantissa = 0 then (0, 0) else
  ((List.range 17).findSome? fun i => x.numeralOf? (i + 1)).getD (x.mantissa, 0)

end Magnitude

/-- How the digits of a numeral are written out. -/
structure NumeralLayout where
  /-- The least decimal exponent that is written positionally. -/
  positionalFrom : Int
  /-- The least decimal exponent above those written positionally. -/
  positionalBelow : Int
  /-- The least number of digits in a written exponent. -/
  exponentWidth : Nat

namespace NumeralLayout

/-- Digits padded on the left with zeros to a given width. -/
def padded (width n : Nat) : String :=
  let digits := Nat.toDigits 10 n
  String.ofList (List.replicate (width - digits.length) '0' ++ digits)

/-- Digits without the zeros at their end. -/
def dropTrailingZeros (digits : List Char) : List Char :=
  (digits.reverse.dropWhile (· = '0')).reverse

/-- The text of `digits * 10 ^ power`. A positional numeral keeps a point and
at least one digit after it; a numeral with an exponent keeps the point only
between digits and always writes the sign of the exponent. -/
def write (layout : NumeralLayout) (digits : Nat) (power : Int) : String :=
  if digits = 0 then "0.0" else
  let written := Nat.toDigits 10 digits
  let point : Int := written.length + power
  let cs := dropTrailingZeros written
  let exponent := point - 1
  if layout.positionalFrom ≤ exponent ∧ exponent < layout.positionalBelow then
    if point ≤ 0 then "0." ++ String.ofList (List.replicate (-point).toNat '0' ++ cs)
    else if (cs.length : Int) ≤ point then
      String.ofList (cs ++ List.replicate (point.toNat - cs.length) '0') ++ ".0"
    else String.ofList (cs.take point.toNat) ++ "." ++ String.ofList (cs.drop point.toNat)
  else
    let fraction := match cs.drop 1 with
      | [] => ""
      | rest => "." ++ String.ofList rest
    String.ofList (cs.take 1) ++ fraction ++ (if exponent < 0 then "e-" else "e+") ++
      padded layout.exponentWidth exponent.natAbs

end NumeralLayout

/-- The text of a double in a given layout. -/
def Binary64.write (layout : NumeralLayout) : Binary64 → String
  | .finite negative size =>
    let (digits, power) := size.shortest
    (if negative then "-" else "") ++ layout.write digits power
  | .infinite negative => if negative then "-inf" else "inf"
  | .nan => "nan"

end ModelTagging
