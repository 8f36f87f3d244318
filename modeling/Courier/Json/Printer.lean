import Courier.Json.Basic

/-!
# Compact JSON text

The one text that is written for a value: no white space, members in order, control characters and
the two special characters of strings escaped, all else as it is.
-/

namespace Courier

/-- The lower-case hexadecimal digit for a value below sixteen. -/
def lowerHexDigit (n : Nat) : Char :=
  if n < 10 then Char.ofNat (0x30 + n) else Char.ofNat (0x61 + (n - 10))

namespace Json

/-- A character inside a string literal. Control characters without a letter of their own are
written with four hexadecimal digits. -/
def charText (c : Char) : List Char :=
  if c = '"' then ['\\', '"']
  else if c = '\\' then ['\\', '\\']
  else if c = '\n' then ['\\', 'n']
  else if c = '\r' then ['\\', 'r']
  else if c = '\t' then ['\\', 't']
  else if c.toNat = 8 then ['\\', 'b']
  else if c.toNat = 12 then ['\\', 'f']
  else if c.toNat < 32 then
    ['\\', 'u', '0', '0', lowerHexDigit (c.toNat / 16), lowerHexDigit (c.toNat % 16)]
  else [c]

/-- A string literal. -/
def stringText (s : String) : List Char :=
  '"' :: (s.toList.flatMap charText ++ ['"'])

/-- An integer in decimal. -/
def integerText (n : Int) : List Char :=
  if n < 0 then '-' :: Nat.toDigits 10 n.natAbs else Nat.toDigits 10 n.natAbs

/-- A number. A floating-point number always shows a point or an exponent. -/
def numberText : JsonNumber → List Char
  | .integer n => integerText n.value
  | .float x => NumberLayout.json.finite x

/-- A truth value. -/
def boolText (b : Bool) : List Char :=
  if b then ['t', 'r', 'u', 'e'] else ['f', 'a', 'l', 's', 'e']

mutual

/-- The text of a value. -/
def chars : Json → List Char
  | .null => ['n', 'u', 'l', 'l']
  | .bool b => boolText b
  | .number n => numberText n
  | .string s => stringText s
  | .array items => '[' :: (itemsText items ++ [']'])
  | .object members => '{' :: (membersText members ++ ['}'])

/-- Items with commas between them. -/
def itemsText : List Json → List Char
  | [] => []
  | item :: rest => chars item ++ moreItemsText rest

/-- Items with a comma before each of them. -/
def moreItemsText : List Json → List Char
  | [] => []
  | item :: rest => ',' :: (chars item ++ moreItemsText rest)

/-- Members with commas between them. -/
def membersText : List (String × Json) → List Char
  | [] => []
  | (name, value) :: rest => stringText name ++ ':' :: (chars value ++ moreMembersText rest)

/-- Members with a comma before each of them. -/
def moreMembersText : List (String × Json) → List Char
  | [] => []
  | (name, value) :: rest =>
    ',' :: (stringText name ++ ':' :: (chars value ++ moreMembersText rest))

end

/-- The compact text of a value. -/
def text (v : Json) : String :=
  String.ofList v.chars

end Json

end Courier
