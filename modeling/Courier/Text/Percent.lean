import Courier.Text.Utf8

/-!
# Percent-encoding

A byte is written as `%` and two upper-case hexadecimal digits. An encoder keeps the characters of
a given class and writes all others byte by byte; the decoder reads every well-formed escape and
keeps all else, also a `%` that starts no escape.
-/

namespace Courier.Percent

/-- The upper-case hexadecimal digit for a value below sixteen. -/
def hexDigit (n : Nat) : Char :=
  if n < 10 then Char.ofNat (0x30 + n) else Char.ofNat (0x41 + (n - 10))

/-- The value of a hexadecimal digit, in either case. -/
def hexValue (c : Char) : Option Nat :=
  if '0' ≤ c ∧ c ≤ '9' then some (c.toNat - 0x30)
  else if 'a' ≤ c ∧ c ≤ 'f' then some (c.toNat - 0x61 + 10)
  else if 'A' ≤ c ∧ c ≤ 'F' then some (c.toNat - 0x41 + 10)
  else none

/-- The escape of a byte. -/
def escape (b : UInt8) : List Char :=
  ['%', hexDigit (b.toNat / 16), hexDigit (b.toNat % 16)]

/-- A character itself if it is kept, else the escapes of its bytes. -/
def encodeChar (keep : Char → Bool) (c : Char) : List Char :=
  if keep c then [c] else (String.utf8EncodeChar c).flatMap escape

/-- Text with all characters escaped but those that are kept. -/
def encodeChars (keep : Char → Bool) (cs : List Char) : List Char :=
  cs.flatMap (encodeChar keep)

/-- Text with all characters escaped but those that are kept. -/
def encode (keep : Char → Bool) (s : String) : String :=
  String.ofList (encodeChars keep s.toList)

/-- The bytes that a text stands for. -/
def decodeChars : List Char → List UInt8
  | [] => []
  | '%' :: a :: b :: rest =>
    match hexValue a, hexValue b with
    | some x, some y => UInt8.ofNat (x * 16 + y) :: decodeChars rest
    | _, _ => 0x25 :: decodeChars (a :: b :: rest)
  | c :: rest => String.utf8EncodeChar c ++ decodeChars rest

/-- The bytes that a text stands for. -/
def decode (s : String) : List UInt8 :=
  decodeChars s.toList

/-- ASCII letters and digits. -/
def isAsciiAlnum (c : Char) : Bool :=
  ('a' ≤ c && c ≤ 'z') || ('A' ≤ c && c ≤ 'Z') || ('0' ≤ c && c ≤ '9')

/-- Printable ASCII, the space included. -/
def isAsciiGraphic (c : Char) : Bool :=
  ' ' ≤ c && c ≤ '~'

end Courier.Percent
