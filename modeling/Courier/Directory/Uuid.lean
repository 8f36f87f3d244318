import Courier.Json.Printer
import Courier.Text.Percent

/-!
# Identifiers of 128 bits

An identifier is written as 32 hexadecimal digits in five groups with hyphens between them. It is
read in that form, also between braces or after `urn:uuid:`, and without hyphens.
-/

namespace Courier.Directory

/-- An identifier of 128 bits. -/
structure Uuid where
  bits : BitVec 128
deriving DecidableEq, Repr

/-- Why a text is no identifier. Indices count bytes from zero. -/
inductive UuidError where
  | character (c : Char) (index : Nat)
  | length (found : Nat)
  | groupCount (found : Nat)
  | groupLength (group : Nat) (expected found : Nat)
deriving DecidableEq, Repr

namespace UuidError

/-- The wording of an error. -/
def message : UuidError → String
  | character c index => s!"invalid character: found `{c}` at {index}"
  | length found => s!"invalid length: found {found}"
  | groupCount found => s!"invalid group count: expected 5, found {found}"
  | groupLength group expected found =>
    s!"invalid group length in group {group}: expected {expected}, found {found}"

end UuidError

namespace Uuid

/-- The number of digits in each group. -/
def groupLengths : List Nat := [8, 4, 4, 4, 12]

/-- The digits of a number in base 16, so many of them, most significant first. -/
def hexDigits : Nat → Nat → List Char
  | 0, _ => []
  | count + 1, n => lowerHexDigit (n / Nat.pow 16 count % 16) :: hexDigits count n

/-- The 32 digits of an identifier. -/
def digits (id : Uuid) : List Char :=
  hexDigits 32 id.bits.toNat

/-- Puts a hyphen between groups of the given lengths. -/
def hyphenated : List Nat → List Char → List Char
  | [], _ => []
  | [n], cs => cs.take n
  | n :: more, cs => cs.take n ++ '-' :: hyphenated more (cs.drop n)

/-- The text of an identifier. -/
def text (id : Uuid) : String :=
  String.ofList (hyphenated groupLengths id.digits)

/-- The number that hexadecimal digits name. -/
def hexNumber? (cs : List Char) : Option Nat :=
  cs.foldlM (fun n c => (Percent.hexValue c).map (n * 16 + ·)) 0

/-- The identifier of 32 digits. -/
def ofDigits? (cs : List Char) : Option Uuid :=
  if cs.length = 32 then (hexNumber? cs).map fun n => ⟨BitVec.ofNat 128 n⟩ else none

/-- The digits of groups of the given lengths with hyphens between them. -/
def ungrouped? : List Nat → List Char → Option (List Char)
  | [], _ => none
  | [n], cs => if cs.length = n ∧ '-' ∉ cs then some cs else none
  | n :: more, cs =>
    if '-' ∉ cs.take n ∧ (cs.drop n).head? = some '-' then
      (ungrouped? more (cs.drop (n + 1))).map (cs.take n ++ ·)
    else none

/-- What can stand before an identifier in its long form. -/
def urnMark : List Char := ['u', 'r', 'n', ':', 'u', 'u', 'i', 'd', ':']

/-- A text without braces or the mark in front of it, how many bytes were taken from the front, and
whether nothing was taken. -/
def unwrap (cs : List Char) : List Char × Nat × Bool :=
  if cs.head? = some '\x7b' ∧ cs.getLast? = some '\x7d' ∧ 1 < cs.length then
    ((cs.drop 1).dropLast, 1, false)
  else if urnMark.isPrefixOf cs then (cs.drop urnMark.length, urnMark.length, false)
  else (cs, 0, true)

/-- The identifier that a text stands for. -/
def ofChars? (cs : List Char) : Option Uuid :=
  if cs.length = 32 then ofDigits? cs
  else (ungrouped? groupLengths (unwrap cs).1).bind ofDigits?

/-- The first character that is neither a digit nor a hyphen, and its index. -/
def badCharacter? : Nat → List Char → Option (Char × Nat)
  | _, [] => none
  | index, c :: rest =>
    if c = '-' ∨ (Percent.hexValue c).isSome = true then badCharacter? (index + c.utf8Size) rest
    else some (c, index)

/-- The first group of the wrong length. -/
def badGroup (groups : List Nat) : UuidError :=
  match ((groupLengths.zip groups).zipIdx).find? fun ((expected, found), _) => expected ≠ found with
  | some ((expected, found), group) => .groupLength group expected found
  | none => .groupLength 4 12 12

/-- The lengths of what stands between hyphens. -/
def groupSizes (cs : List Char) : List Nat :=
  cs.foldr (fun c sizes =>
    if c = '-' then 0 :: sizes
    else match sizes with
      | n :: more => (n + 1) :: more
      | [] => [1]) [0]

/-- Why a text that is no identifier is none: by its characters first, then by its groups. -/
def explain (cs : List Char) : UuidError :=
  let (inner, offset, plain) := unwrap cs
  match badCharacter? offset inner with
  | some (c, index) => .character c index
  | none =>
    let groups := groupSizes inner
    if groups.length = 1 ∧ plain = true then .length cs.length
    else if groups.length ≠ 5 then .groupCount groups.length
    else badGroup groups

/-- Reads an identifier. -/
def parse (s : String) : Except UuidError Uuid :=
  match ofChars? s.toList with
  | some id => .ok id
  | none => .error (explain s.toList)

end Uuid

end Courier.Directory
