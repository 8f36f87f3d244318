import Courier.Json.Reading

/-!
# JSON numbers

An integer literal that 64 bits hold is an integer; every other literal is a floating-point number.
Its digits are cut where they no longer fit 64 bits, and what was cut only counts as a power of ten;
the cut number and the power are rounded first, and their product or quotient again.
-/

namespace Courier.Json

/-- The greatest number of 64 bits. -/
def maxSignificand : Nat := 18446744073709551615

/-- The greatest power of ten that is divided or multiplied by at once. -/
def greatestTen : Nat := 308

/-- The number nearest to a power of ten. -/
def tenPower (k : Nat) : Binary64 :=
  .nearest false (Nat.pow 10 k) 1

/-- Product with a power of ten, if it is finite. -/
def timesTen (x : Finite64) (k : Nat) : Option Finite64 :=
  match tenPower k with
  | .finite t =>
    match x.mul t with
    | .finite y => some y
    | _ => none
  | _ => none

/-- Quotient by a power of ten that is finite. -/
def overTen (x : Finite64) (k : Nat) : Finite64 :=
  match tenPower k with
  | .finite t =>
    match x.div t with
    | .finite y => y
    | _ => .zero x.negative
  | _ => .zero x.negative

/-- Divides by the greatest power of ten so many times, or until nothing is left. -/
def shrink : Nat → Finite64 → Finite64
  | 0, x => x
  | n + 1, x => if x.isZero then x else shrink n (overTen x greatestTen)

/-- The floating-point number for a significand and a power of ten; nothing if it is too great. -/
def scaled (negative : Bool) (significand : Nat) (exponent : Int) : Option Finite64 :=
  match Binary64.nearest false significand 1 with
  | .finite x =>
    let size := exponent.natAbs
    (if 0 ≤ exponent then
      if size ≤ greatestTen then timesTen x size else if x.isZero then some x else none
    else
      let times := (size - 1) / greatestTen
      some (overTen (shrink times x) (size - times * greatestTen))).map (·.negateIf negative)
  | _ => none

/-- Splits off the digits at the front. -/
def spanDigits (cs : List Utf8.Symbol) : List Char × List Utf8.Symbol :=
  ((cs.takeWhile isDigitSymbol).filterMap id, cs.dropWhile isDigitSymbol)

/-- Appends digits to a significand while they fit. Returns the significand, and how many digits
went into it. -/
def appendDigits : Nat → Nat → List Char → Nat × Nat
  | significand, used, [] => (significand, used)
  | significand, used, c :: cs =>
    let next := 10 * significand + (c.toNat - 0x30)
    if maxSignificand < next then (significand, used) else appendDigits next (used + 1) cs

/-- A floating-point number, or the fault that it is too great. -/
def floatOr (left : List Utf8.Symbol) (x : Option Finite64) :
    Except Fault (JsonNumber × List Utf8.Symbol) :=
  match x with
  | some x => .ok (.float x, left)
  | none => .error (.here (.breach .numberOutOfRange) left)

/-- The greatest exponent that is kept. A longer one makes the number zero or too great. -/
def greatestExponent : Nat := 2147483647

/-- Reads the digits of an exponent, up to the one with which it becomes too great. Returns the
exponent unless it is too great, and what is left. -/
def exponentDigits : Nat → List Utf8.Symbol → Option Nat × List Utf8.Symbol
  | n, some c :: cs =>
    if isDigit c then
      let next := 10 * n + (c.toNat - 0x30)
      if greatestExponent < next then (none, cs) else exponentDigits next cs
    else (some n, some c :: cs)
  | n, cs => (some n, cs)

/-- Reads what follows the mark of an exponent. -/
def exponentPart (negative : Bool) (significand : Nat) (exponent : Int)
    (cs : List Utf8.Symbol) : Except Fault (JsonNumber × List Utf8.Symbol) :=
  let (below, cs) := match cs with
    | some '+' :: rest => (false, rest)
    | some '-' :: rest => (true, rest)
    | _ => (false, cs)
  match cs with
  | [] => .error (.here (.unfinished .value) [])
  | c :: _ =>
    if isDigitSymbol c then
      match exponentDigits 0 cs with
      | (some e, left) =>
        floatOr left (scaled negative significand (if below then exponent - e else exponent + e))
      | (none, left) =>
        if significand ≠ 0 ∧ below = false then .error (.here (.breach .numberOutOfRange) left)
        else .ok (.float (.zero negative), left.dropWhile isDigitSymbol)
    else .error (.ahead (.breach .invalidNumber) cs)

/-- Reads an exponent if there is one. -/
def maybeExponent (negative : Bool) (significand : Nat) (exponent : Int)
    (cs : List Utf8.Symbol) : Except Fault (JsonNumber × List Utf8.Symbol) :=
  match cs with
  | some 'e' :: rest | some 'E' :: rest => exponentPart negative significand exponent rest
  | _ => floatOr cs (scaled negative significand exponent)

/-- Reads what follows the point. -/
def fractionPart (negative : Bool) (significand : Nat) (exponent : Int)
    (cs : List Utf8.Symbol) : Except Fault (JsonNumber × List Utf8.Symbol) :=
  let (digits, left) := spanDigits cs
  if digits.isEmpty then
    .error (match left with
      | [] => .ahead (.unfinished .value) []
      | _ => .ahead (.breach .invalidNumber) left)
  else
    let (longer, used) := appendDigits significand 0 digits
    maybeExponent negative longer (exponent - used) left

/-- An integer literal as a value. Zero with a sign, and what 64 bits do not hold, are
floating-point numbers. -/
def ofInteger (negative : Bool) (significand : Nat) : Option JsonNumber :=
  if negative ∧ significand = 0 then some (.float (.zero true))
  else
    match JsonInteger.ofInt? (if negative then -(significand : Int) else significand) with
    | some n => some (.integer n)
    | none => (scaled negative significand 0).map .float

/-- Reads a number after its sign. -/
def unsigned (negative : Bool) (cs : List Utf8.Symbol) :
    Except Fault (JsonNumber × List Utf8.Symbol) :=
  let (digits, left) := spanDigits cs
  match digits with
  | [] =>
    .error (match cs with
      | [] => .here (.unfinished .value) []
      | _ => .ahead (.breach .invalidNumber) cs)
  | first :: more =>
    if first = '0' ∧ more ≠ [] then .error (.ahead (.breach .invalidNumber) (cs.drop 1))
    else
      let (significand, used) := appendDigits 0 0 digits
      let dropped : Int := digits.length - used
      match left with
      | some '.' :: rest => fractionPart negative significand dropped rest
      | some 'e' :: rest | some 'E' :: rest => exponentPart negative significand dropped rest
      | _ =>
        if dropped = 0 then
          match ofInteger negative significand with
          | some n => .ok (n, left)
          | none => .error (.here (.breach .numberOutOfRange) left)
        else floatOr left (scaled negative significand dropped)

/-- Reads a number. -/
def numeral (cs : List Utf8.Symbol) : Except Fault (JsonNumber × List Utf8.Symbol) :=
  match cs with
  | some '-' :: rest => unsigned true rest
  | _ => unsigned false cs

end Courier.Json
