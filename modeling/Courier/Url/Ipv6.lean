import Courier.Url.Ipv4

/-!
# IPv6 addresses in URLs

Eight groups of up to four hexadecimal digits. One run of zero groups can be left out, and the last
two groups can be written as an IPv4 address. An address is written with its first longest run of
two zero groups or more left out.
-/

namespace Courier.Url.Ipv6

/-- A part of an address: a group, or the gap where zero groups are left out. -/
inductive Part where
  | group (n : Nat)
  | gap
deriving DecidableEq, Repr

/-- The value of up to four hexadecimal digits, at least one. -/
def readGroup (cs : List Char) : Option Nat :=
  if cs ≠ [] ∧ cs.length ≤ 4 then Ipv4.ofDigits 16 cs else none

/-- Reads a decimal number of a byte, without zeros in front. -/
def readByte (cs : List Char) : Option Nat := do
  let n ← readNat cs
  if n ≤ 255 ∧ (cs.head? ≠ some '0' ∨ cs.length = 1) then some n else none

/-- Reads four bytes with dots between them as two groups. -/
def readDotted (cs : List Char) : Option (List Part) := do
  let [a, b, c, d] ← (splitAll (· = '.') cs).mapM readByte | none
  pure [.group (a * 256 + b), .group (c * 256 + d)]

/-- Reads pieces between colons. An empty piece is the gap; only the last piece can be dotted. -/
def readPieces : List (List Char) → Option (List Part)
  | [] => some []
  | [last] =>
    if last.contains '.' then readDotted last else (readGroup last).map fun n => [.group n]
  | piece :: rest => do
    let part ← if piece.isEmpty then some Part.gap else (readGroup piece).map .group
    let more ← readPieces rest
    pure (part :: more)

/-- Reads a text as groups and gaps. A colon at either end has to be part of a double one. -/
def readParts (cs : List Char) : Option (List Part) :=
  match splitAll (· = ':') cs with
  | [[], [], []] => some [.gap]
  | [] :: [] :: rest => (readPieces rest).map (.gap :: ·)
  | [] :: _ => none
  | pieces =>
    match pieces.reverse with
    | [] :: [] :: front => (readPieces front.reverse).map (· ++ [.gap])
    | _ => readPieces pieces

/-- The groups of an address, with zeros in its gap. -/
def groupsOf (parts : List Part) : List Nat :=
  let missing := 8 - (parts.filter (· ≠ .gap)).length
  parts.flatMap fun
    | .group n => [n]
    | .gap => List.replicate missing 0

/-- Reads an address as its eight groups. The gap stands for one group at least. -/
def parse (cs : List Char) : Except ParseError (List Nat) :=
  match readParts cs with
  | none => .error .invalidIpv6
  | some parts =>
    let groups := (parts.filter (· ≠ .gap)).length
    let gaps := parts.length - groups
    if (gaps = 0 ∧ groups = 8) ∨ (gaps = 1 ∧ groups ≤ 7) then .ok (groupsOf parts)
    else .error .invalidIpv6

/-- How many zeros are at the front. -/
def zeroRun (groups : List Nat) : Nat :=
  (groups.takeWhile (· = 0)).length

/-- The place and length of the first longest run of zeros. -/
def longestRun : List Nat → Nat → Nat × Nat
  | [], _ => (0, 0)
  | g :: rest, index =>
    let (start, length) := longestRun rest (index + 1)
    let own := zeroRun (g :: rest)
    if length ≤ own then (index, own) else (start, length)

/-- Groups with colons between them. -/
def groupsText (groups : List Nat) : List Char :=
  (groups.map (Nat.toDigits 16)).intersperse [':'] |>.flatten

/-- The text of an address. -/
def text (groups : List Nat) : List Char :=
  let (start, length) := longestRun groups 0
  if length < 2 then groupsText groups
  else groupsText (groups.take start) ++ [':', ':'] ++ groupsText (groups.drop (start + length))

end Courier.Url.Ipv6
