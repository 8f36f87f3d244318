import Courier.Number.Binary64

/-!
# Reading numbers

Decimal text as a floating-point number, rounded once: an optional sign, then digits with an
optional point (at least one digit on either side of it) and an optional exponent, or one of the
words `inf`, `infinity` and `nan` in any letter case.
-/

namespace Courier

/-- The value of a digit. -/
def digitValue (c : Char) : Option Nat :=
  if '0' ≤ c ∧ c ≤ '9' then some (c.toNat - 0x30) else none

/-- ASCII digits. -/
def isDigit (c : Char) : Bool :=
  '0' ≤ c && c ≤ '9'

/-- The number that a run of digits names. -/
def natOfDigits (cs : List Char) : Nat :=
  cs.foldl (fun n c => 10 * n + (c.toNat - 0x30)) 0

/-- A sign, if there is one, and the rest. The result says whether the sign is a minus. -/
def readSign : List Char → Bool × List Char
  | '-' :: rest => (true, rest)
  | '+' :: rest => (false, rest)
  | cs => (false, cs)

/-- A natural number in decimal, of at least one digit and with nothing else. -/
def readNat (cs : List Char) : Option Nat :=
  if cs ≠ [] ∧ cs.all isDigit = true then some (natOfDigits cs) else none

/-- An integer in decimal with an optional sign. -/
def readInt (cs : List Char) : Option Int :=
  let (negative, rest) := readSign cs
  (readNat rest).map fun n => if negative then -(n : Int) else n

namespace Binary64

/-- The exponent part: nothing, or a mark and a signed number. -/
def readExponent : List Char → Option Int
  | [] => some 0
  | c :: rest => if c = 'e' ∨ c = 'E' then readInt rest else none

/-- Digits, point and exponent. -/
def readDigits (negative : Bool) (cs : List Char) : Option Binary64 :=
  let whole := cs.takeWhile isDigit
  let afterWhole := cs.dropWhile isDigit
  let (fraction, rest) := match afterWhole with
    | '.' :: more => (more.takeWhile isDigit, more.dropWhile isDigit)
    | more => ([], more)
  if whole.isEmpty && fraction.isEmpty then none
  else (readExponent rest).map fun e =>
    ofDecimal negative (natOfDigits (whole ++ fraction)) (e - fraction.length)

/-- Reads decimal text. -/
def read (s : String) : Option Binary64 :=
  let (negative, rest) := readSign s.toList
  let word := String.ofList (rest.map Char.toLower)
  if word = "inf" ∨ word = "infinity" then some (.infinite negative)
  else if word = "nan" then some .nan
  else readDigits negative rest

end Binary64

end Courier
