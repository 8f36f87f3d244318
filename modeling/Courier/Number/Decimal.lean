import Courier.Number.Binary64

/-!
# Shortest decimals

The decimal with the fewest digits that reads back as a given floating-point number, and of those
the one nearest to it. All arithmetic is exact. How the digits are laid out as text is a record, one
for each kind of output.
-/

namespace Courier

/-- Significant digits and the place of the point: `0.d₁d₂… · 10 ^ point`. -/
structure Decimal where
  digits : List Nat
  point : Int
deriving DecidableEq, Repr

namespace Finite64

/-- The least `p` with `x < 10 ^ p`, for a positive `num / den`. -/
def pointOf (num den : Nat) : Int :=
  let guess := Int.fdiv (((num.log2 : Int) - den.log2 - 1) * 30103) 100000
  let below (p : Int) : Bool :=
    if 0 ≤ p then num < den * Nat.pow 10 p.toNat else num * Nat.pow 10 (-p).toNat < den
  if below guess then guess
  else if below (guess + 1) then guess + 1
  else if below (guess + 2) then guess + 2
  else guess + 3

/-- The numbers that read back as `x`, as multiples of a quarter of its last bit: those between the
bounds, which belong to them if the mantissa is even. The lower half is narrower where the exponent
steps down. -/
def readBackBounds (x : Finite64) : Nat × Nat :=
  let m := 4 * x.mantissa
  (if x.mantissa = Nat.pow 2 52 ∧ x.exponent ≠ -1074 then m - 1 else m - 2, m + 2)

/-- A quarter of the last bit of `x`, counted in steps of `10 ^ unit`, as a quotient. -/
def quarterIn (x : Finite64) (unit : Int) : Nat × Nat :=
  let (n, d) := if 2 ≤ x.exponent then (Nat.pow 2 (x.exponent - 2).toNat, 1)
    else (1, Nat.pow 2 (2 - x.exponent).toNat)
  if 0 ≤ unit then (n, d * Nat.pow 10 unit.toNat) else (n * Nat.pow 10 (-unit).toNat, d)

/-- The multiple of `10 ^ unit` that reads back as `x` and is nearest to it, if there is one. A tie
goes up, or to the even multiple. -/
def hit (tieUp : Bool) (x : Finite64) (unit : Int) : Option Nat :=
  let (n, d) := x.quarterIn unit
  let (low, high) := x.readBackBounds
  let value := 4 * x.mantissa * n
  let isBack (k : Nat) : Bool :=
    if x.mantissa % 2 = 0 then low * n ≤ k * d && k * d ≤ high * n
    else low * n < k * d && k * d < high * n
  let floor := value / d
  let rest := 2 * (value % d)
  match isBack floor, isBack (floor + 1) with
  | false, false => none
  | true, false => some floor
  | false, true => some (floor + 1)
  | true, true =>
    if rest < d ∨ (rest = d ∧ tieUp = false ∧ floor % 2 = 0) then some floor else some (floor + 1)

/-- The first of the grids with `n`, `n + 1`, … digits that has a hit: the hit and the unit of the
grid. -/
def firstHit (tieUp : Bool) (x : Finite64) (point : Int) : Nat → Nat → Nat × Int
  | _, 0 => (0, 0)
  | n, fuel + 1 =>
    match hit tieUp x (point - n) with
    | some k => (k, point - n)
    | none => firstHit tieUp x point (n + 1) fuel

/-- The digits of a number, most significant first, without zeros at the end. -/
def significantDigits (n : Nat) : List Nat :=
  ((Nat.toDigits 10 n).map fun c => c.toNat - 48).reverse.dropWhile (· == 0) |>.reverse

/-- The shortest decimal of the absolute value. Seventeen digits always suffice. -/
def shortest (tieUp : Bool) (x : Finite64) : Decimal :=
  if x.isZero then ⟨[0], 1⟩
  else
    let (num, den) := x.magnitude
    let (k, unit) := firstHit tieUp x (pointOf num den) 1 17
    ⟨significantDigits k, unit + (Nat.toDigits 10 k).length⟩

end Finite64

/-- How a floating-point number is written: between which decimal exponents (of the first digit)
without an exponent, whether a whole number shows a zero after the point, and which way a tie
between two shortest decimals goes. -/
structure NumberLayout where
  leastPlain : Option Int
  greatestPlain : Option Int
  showsPoint : Bool
  tieUp : Bool

namespace NumberLayout

/-- The character of a digit. -/
def digitChar (d : Nat) : Char :=
  Char.ofNat (0x30 + d)

/-- Digits without an exponent. -/
def plain (layout : NumberLayout) (d : Decimal) : List Char :=
  let ds := d.digits.map digitChar
  if d.point ≤ 0 then '0' :: '.' :: (List.replicate (-d.point).toNat '0' ++ ds)
  else
    let p := d.point.toNat
    if ds.length ≤ p then
      ds ++ List.replicate (p - ds.length) '0' ++ (if layout.showsPoint then ['.', '0'] else [])
    else ds.take p ++ '.' :: ds.drop p

/-- One digit before the point, and a signed exponent. -/
def scientific (d : Decimal) : List Char :=
  let e := d.point - 1
  let front := match d.digits.map digitChar with
    | [] => []
    | [c] => [c]
    | c :: cs => c :: '.' :: cs
  front ++ 'e' :: (if e < 0 then '-' else '+') :: Nat.toDigits 10 e.natAbs

/-- The text of a finite number. -/
def finite (layout : NumberLayout) (x : Finite64) : List Char :=
  let d := x.shortest layout.tieUp
  let e := d.point - 1
  let isPlain := layout.leastPlain.all (· ≤ e) && layout.greatestPlain.all (e ≤ ·)
  (if x.negative then ['-'] else []) ++ if isPlain then layout.plain d else scientific d

/-- Never an exponent, and no point after a whole number. -/
def positional : NumberLayout :=
  ⟨none, none, false, true⟩

/-- An exponent from 1e16 on and below 1e-5, and a zero after the point of a whole number. -/
def json : NumberLayout :=
  ⟨some (-5), some 15, true, false⟩

end NumberLayout

/-- The positional text of a number, with words for all that is not finite. -/
def Binary64.text : Binary64 → String
  | .finite x => String.ofList (NumberLayout.positional.finite x)
  | .infinite negative => if negative then "-inf" else "inf"
  | .nan => "NaN"

end Courier
