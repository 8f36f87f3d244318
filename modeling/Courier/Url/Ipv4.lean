import Courier.Number.Reading
import Courier.Text.Percent
import Courier.Url.ParseError

/-!
# IPv4 addresses in URLs

A host whose last label is a number is an address of one to four numbers, each decimal, octal or
hexadecimal; the last number fills all bytes that are left. It is written with four decimal numbers.
-/

namespace Courier.Url

/-- A text cut at each separator. There is one piece more than there are separators. -/
def splitAll (isSeparator : Char → Bool) : List Char → List (List Char)
  | [] => [[]]
  | c :: cs =>
    if isSeparator c then [] :: splitAll isSeparator cs
    else
      match splitAll isSeparator cs with
      | piece :: more => (c :: piece) :: more
      | [] => [[c]]

namespace Ipv4

/-- The number that digits of a base name. -/
def ofDigits (base : Nat) : List Char → Option Nat :=
  fun cs => cs.foldlM (fun n c => do
    let d ← Percent.hexValue c
    if d < base then some (n * base + d) else none) 0

/-- Reads a number: `0x` marks a hexadecimal one and a zero in front an octal one. -/
def readNumber : List Char → Option Nat
  | [] => none
  | '0' :: 'x' :: rest | '0' :: 'X' :: rest => ofDigits 16 rest
  | ['0'] => some 0
  | '0' :: rest => ofDigits 8 rest
  | cs => ofDigits 10 cs

/-- The labels of a host, without an empty one at the end. -/
def labels (host : List Char) : List (List Char) :=
  let all := splitAll (· = '.') host
  if all.getLast? = some [] ∧ 1 < all.length then all.dropLast else all

/-- Whether a host has to be an address, because its last label is a number. -/
def endsInNumber (host : List Char) : Bool :=
  match (labels host).getLast? with
  | none | some [] => false
  | some last => last.all isDigit || (readNumber last).isSome

/-- The bytes of a number, most significant first, so many of them. -/
def bytesOf : Nat → Nat → List Nat
  | 0, _ => []
  | count + 1, n => n / Nat.pow 256 count % 256 :: bytesOf count n

/-- Reads an address as its four bytes. -/
def parse (host : List Char) : Except ParseError (List Nat) :=
  match (labels host).mapM readNumber with
  | none => .error .invalidIpv4
  | some numbers =>
    let front := numbers.dropLast
    let last := numbers.getLast?.getD 0
    if numbers.length ≤ 4 ∧ front.all (· ≤ 255) = true ∧ last < Nat.pow 256 (4 - front.length) then
      .ok (front ++ bytesOf (4 - front.length) last)
    else .error .invalidIpv4

/-- The text of an address. -/
def text (bytes : List Nat) : List Char :=
  (bytes.map (Nat.toDigits 10)).intersperse ['.'] |>.flatten

end Ipv4

end Courier.Url
