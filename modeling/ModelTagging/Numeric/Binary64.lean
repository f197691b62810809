/-!
# Double precision numbers as exact dyadic values

A finite double is a sign and a natural multiple of a power of two in one
normal form, so two of them are the same number with the same sign exactly
when they are equal. Rounding is done on exact quotients of naturals, to the
nearest representable size and to the even one in a tie. No machine
arithmetic occurs here. Sums and products of doubles are not defined,
because nothing in this library computes with the numbers it carries.
-/

namespace ModelTagging

/-- Two to a natural power. -/
def twoTo (n : Nat) : Nat := Nat.pow 2 n

/-- Ten to a natural power. -/
def tenTo (n : Nat) : Nat := Nat.pow 10 n

/-- The size of a finite double, `mantissa * 2 ^ exponent`. The exponent is
the least one that keeps the mantissa below `2 ^ 53`, which makes the
representation unique. -/
structure Magnitude where
  /-- The integral significand, without its sign. -/
  mantissa : Nat
  /-- The power of two that scales the mantissa. -/
  exponent : Int
  /-- The mantissa has at most 53 binary digits. -/
  mantissa_lt : mantissa < twoTo 53
  /-- No exponent lies below the subnormal one. -/
  exponent_ge : -1074 ≤ exponent
  /-- No exponent lies above that of the largest finite double. -/
  exponent_le : exponent ≤ 971
  /-- A mantissa is short only at the subnormal exponent. -/
  normal : twoTo 52 ≤ mantissa ∨ exponent = -1074
  deriving DecidableEq

/-- A double precision number. The two zeros differ in their sign. -/
inductive Binary64 where
  /-- A signed finite number. -/
  | finite (negative : Bool) (magnitude : Magnitude)
  /-- An infinity of the given sign. -/
  | infinite (negative : Bool)
  /-- The value that is no number. -/
  | nan
  deriving DecidableEq

namespace Magnitude

/-- The size of the two zeros. -/
def zero : Magnitude := ⟨0, -1074, by decide, by decide, by decide, .inr rfl⟩

/-- The magnitude with these parts, if they are in normal form. -/
def ofParts? (mantissa : Nat) (exponent : Int) : Option Magnitude :=
  if h : mantissa < twoTo 53 ∧ -1074 ≤ exponent ∧ exponent ≤ 971 ∧
      (twoTo 52 ≤ mantissa ∨ exponent = -1074) then
    some ⟨mantissa, exponent, h.1, h.2.1, h.2.2.1, h.2.2.2⟩
  else none

/-- The numerator of the size written as a quotient of naturals. -/
def numerator (x : Magnitude) : Nat := x.mantissa * twoTo x.exponent.toNat

/-- The denominator of the size written as a quotient of naturals. -/
def denominator (x : Magnitude) : Nat := twoTo (-x.exponent).toNat

/-- Whether the size is a whole number. -/
def isWhole (x : Magnitude) : Bool := x.numerator % x.denominator == 0

/-- The largest natural that does not exceed the size. -/
def floor (x : Magnitude) : Nat := x.numerator / x.denominator

end Magnitude

/-- The natural nearest to `num / den`, the even one of two equally near. -/
def roundQuotient (num den : Nat) : Nat :=
  let quotient := num / den
  let twice := 2 * (num % den)
  if twice > den ∨ (twice = den ∧ quotient % 2 = 1) then quotient + 1 else quotient

/-- The exponent of the largest power of two that does not exceed the positive
quotient `num / den`. -/
def binaryExponent (num den : Nat) : Int :=
  let guess : Int := (num.log2 : Int) - den.log2
  let below : Bool :=
    if 0 ≤ guess then num < den * twoTo guess.toNat else num * twoTo (-guess).toNat < den
  if below then guess - 1 else guess

/-- The magnitude nearest to `num / den`. There is none when the quotient
rounds beyond the largest finite size. -/
def Magnitude.ofQuotient? (num den : Nat) : Option Magnitude :=
  if num = 0 then some .zero else
  let shift := max (binaryExponent num den - 52) (-1074)
  let mantissa := roundQuotient (num * twoTo (-shift).toNat) (den * twoTo shift.toNat)
  if mantissa = twoTo 53 then ofParts? (twoTo 52) (shift + 1) else ofParts? mantissa shift

/-- The number of decimal digits of a natural, one for zero. -/
def digitCount (n : Nat) : Nat := (Nat.toDigits 10 n).length

namespace Binary64

/-- The double with this sign nearest to `num / den`. -/
def ofQuotient (negative : Bool) (num den : Nat) : Binary64 :=
  match Magnitude.ofQuotient? num den with
  | some size => .finite negative size
  | none => .infinite negative

/-- The double nearest to `significand * 10 ^ exponent` with the given sign.
Sizes beyond `10 ^ 310` and below `10 ^ -330` are decided from the position
of the leading digit alone, which keeps the powers of ten small. -/
def ofDecimal (negative : Bool) (significand : Nat) (exponent : Int) : Binary64 :=
  let lead := (digitCount significand : Int) + exponent
  if significand = 0 ∨ lead < -330 then .finite negative .zero
  else if 310 < lead then .infinite negative
  else ofQuotient negative (significand * tenTo exponent.toNat) (tenTo (-exponent).toNat)

/-- The integer a double stands for, if it is whole. -/
def toInt? : Binary64 → Option Int
  | .finite negative size =>
    if size.isWhole then some (if negative then -(size.floor : Int) else size.floor) else none
  | _ => none

end Binary64

end ModelTagging
