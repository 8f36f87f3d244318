/-!
# Floating-point numbers of 64 bits

A finite number is `± mantissa · 2 ^ exponent` in its only canonical form, so two numbers are equal
when their parts are (the two zeros are different numbers). Every operation computes the exact
result as a quotient of natural numbers and rounds it once, to the nearest number with ties to the
even mantissa.
-/

namespace Courier

/-- The one form of a mantissa and an exponent: 53 bits, of which the top one is set unless the
exponent is the least. -/
def IsCanonical (mantissa : Nat) (exponent : Int) : Prop :=
  mantissa < Nat.pow 2 53 ∧ -1074 ≤ exponent ∧ exponent ≤ 971 ∧
    (Nat.pow 2 52 ≤ mantissa ∨ exponent = -1074)

instance (mantissa : Nat) (exponent : Int) : Decidable (IsCanonical mantissa exponent) := by
  unfold IsCanonical; infer_instance

/-- A finite floating-point number. -/
structure Finite64 where
  negative : Bool
  mantissa : Nat
  exponent : Int
  canonical : IsCanonical mantissa exponent
deriving DecidableEq

/-- A floating-point number. All that is not a number is one value. -/
inductive Binary64 where
  | finite (x : Finite64)
  | infinite (negative : Bool)
  | nan
deriving DecidableEq

namespace Finite64

/-- The zero of a sign. -/
def zero (negative : Bool) : Finite64 :=
  ⟨negative, 0, -1074, by decide⟩

/-- Both zeros are zero. -/
def isZero (x : Finite64) : Bool :=
  x.mantissa == 0

/-- The number with the other sign if `flip` is set. -/
def negateIf (flip : Bool) (x : Finite64) : Finite64 :=
  { x with negative := x.negative != flip }

/-- The absolute value as a quotient of natural numbers. -/
def magnitude (x : Finite64) : Nat × Nat :=
  if 0 ≤ x.exponent then (x.mantissa * Nat.pow 2 x.exponent.toNat, 1)
  else (x.mantissa, Nat.pow 2 (-x.exponent).toNat)

end Finite64

/-- A quotient rounded to the nearest natural number, ties to even. -/
def divRoundEven (num den : Nat) : Nat :=
  let q := num / den
  let twice := 2 * (num % den)
  if twice < den then q
  else if den < twice then q + 1
  else if q % 2 = 0 then q else q + 1

namespace Binary64

/-- The quotient `num / den` divided by `2 ^ exponent`, again as a quotient. -/
def rescale (num den : Nat) (exponent : Int) : Nat × Nat :=
  if 0 ≤ exponent then (num, den * Nat.pow 2 exponent.toNat)
  else (num * Nat.pow 2 (-exponent).toNat, den)

/-- The exponent at which a positive quotient has 53 bits before the point, or the least exponent
if that is greater. -/
def quantumExponent (num den : Nat) : Int :=
  let guess := (num.log2 : Int) - den.log2 - 52
  let (n, d) := rescale num den guess
  max (if n < Nat.pow 2 52 * d then guess - 1 else guess) (-1074)

/-- The number with these parts, where a mantissa that rounding has carried to 54 bits is halved;
infinite if the exponent is too great. -/
def ofParts (negative : Bool) (mantissa : Nat) (exponent : Int) : Binary64 :=
  let (m, e) :=
    if mantissa = Nat.pow 2 53 then (Nat.pow 2 52, exponent + 1) else (mantissa, exponent)
  if h : IsCanonical m e then .finite ⟨negative, m, e, h⟩ else .infinite negative

/-- The number nearest to `± num / den`, ties to even, for a `den` above zero. -/
def nearest (negative : Bool) (num den : Nat) : Binary64 :=
  if num = 0 then .finite (.zero negative)
  else
    let e := quantumExponent num den
    let (n, d) := rescale num den e
    ofParts negative (divRoundEven n d) e

/-- The number nearest to `± digits · 10 ^ exponent`. Exponents that are certain to leave the range
are settled without computing the power. -/
def ofDecimal (negative : Bool) (digits : Nat) (exponent : Int) : Binary64 :=
  if digits = 0 then .finite (.zero negative)
  else if 400 < exponent then .infinite negative
  else if exponent + ((digits.log2 / 3 : Nat) : Int) + 1 < -400 then .finite (.zero negative)
  else if 0 ≤ exponent then nearest negative (digits * Nat.pow 10 exponent.toNat) 1
  else nearest negative digits (Nat.pow 10 (-exponent).toNat)

end Binary64

namespace Finite64

/-- The rounded product. -/
def mul (x y : Finite64) : Binary64 :=
  let (a, b) := x.magnitude
  let (c, d) := y.magnitude
  .nearest (x.negative != y.negative) (a * c) (b * d)

/-- The rounded quotient, for a divisor that is not zero. -/
def div (x y : Finite64) : Binary64 :=
  let (a, b) := x.magnitude
  let (c, d) := y.magnitude
  .nearest (x.negative != y.negative) (a * d) (b * c)

end Finite64

end Courier
