import Courier.Json.Reading
import Courier.Text.Percent

/-!
# JSON string literals

The characters between the quotes, with escapes resolved. Escaped surrogates must come in pairs, and
control characters must be escaped. Bytes that are no UTF-8 are found only at the closing quote.
-/

namespace Courier.Json

/-- The fault of a literal that does not end. -/
def unfinishedString : Fault :=
  .here (.unfinished .string) []

/-- The value of four hexadecimal digits. -/
def hex4 : List Utf8.Symbol → Option Nat
  | [] => some 0
  | some c :: cs => do
    let high ← Percent.hexValue c
    let low ← hex4 cs
    pure (high * Nat.pow 16 cs.length + low)
  | none :: _ => none

/-- Reads four hexadecimal digits. Four bytes are taken before they are looked at. -/
def hexEscape (cs : List Utf8.Symbol) : Except Fault (Nat × List Utf8.Symbol) :=
  if sizeOfSymbols (cs.take 4) < 4 then .error unfinishedString
  else
    match hex4 (cs.take 4) with
    | some n => .ok (n, cs.drop 4)
    | none => .error ⟨.breach .invalidEscape, cs, 4, true, []⟩

/-- The first halves of surrogate pairs. -/
def isLeadSurrogate (n : Nat) : Bool :=
  0xD800 ≤ n && n ≤ 0xDBFF

/-- The second halves of surrogate pairs. -/
def isTrailSurrogate (n : Nat) : Bool :=
  0xDC00 ≤ n && n ≤ 0xDFFF

/-- Reads the second half of a surrogate pair. -/
def secondHalf (lead : Nat) (cs : List Utf8.Symbol) : Except Fault (Char × List Utf8.Symbol) :=
  match cs with
  | [] => .error unfinishedString
  | some '\\' :: [] => .error unfinishedString
  | some '\\' :: some 'u' :: rest =>
    match hexEscape rest with
    | .error f => .error f
    | .ok (n, left) =>
      if isTrailSurrogate n then
        .ok (Char.ofNat (0x10000 + (lead - 0xD800) * 0x400 + (n - 0xDC00)), left)
      else .error (.here (.breach .loneSurrogate) left)
  | some '\\' :: left => .error (.ahead (.breach .unfinishedEscape) left)
  | left => .error (.ahead (.breach .unfinishedEscape) left)

/-- Reads what follows the backslash and the `u`. -/
def unicodeEscape (cs : List Utf8.Symbol) : Except Fault (Char × List Utf8.Symbol) :=
  match hexEscape cs with
  | .error f => .error f
  | .ok (n, left) =>
    if isTrailSurrogate n then .error (.here (.breach .loneSurrogate) left)
    else if isLeadSurrogate n then secondHalf n left
    else .ok (Char.ofNat n, left)

/-- The escapes of one letter. -/
def shortEscape : Char → Option Char
  | '"' => some '"'
  | '\\' => some '\\'
  | '/' => some '/'
  | 'b' => some '\x08'
  | 'f' => some '\x0c'
  | 'n' => some '\n'
  | 'r' => some '\r'
  | 't' => some '\t'
  | _ => none

/-- Reads what follows a backslash. -/
def escaped (cs : List Utf8.Symbol) : Except Fault (Char × List Utf8.Symbol) :=
  match cs with
  | [] => .error unfinishedString
  | some 'u' :: rest => unicodeEscape rest
  | some c :: rest =>
    match shortEscape c with
    | some x => .ok (x, rest)
    | none => .error (.ahead (.breach .invalidEscape) (some c :: rest))
  | none :: rest => .error (.ahead (.breach .invalidEscape) (none :: rest))

/-- Reads characters up to the closing quote: `read` holds those read so far, last first, and
`sound` tells whether all bytes so far were UTF-8. -/
def literalFrom : Nat → Bool → List Char → List Utf8.Symbol →
    Except Fault (String × List Utf8.Symbol)
  | 0, _, _, _ => .error unfinishedString
  | fuel + 1, sound, read, cs =>
    match cs with
    | [] => .error unfinishedString
    | some '"' :: rest =>
      if sound then .ok (String.ofList read.reverse, rest)
      else .error (.here (.breach .invalidCodePoint) (some '"' :: rest))
    | some '\\' :: rest =>
      match escaped rest with
      | .error f => .error f
      | .ok (c, left) => literalFrom fuel sound (c :: read) left
    | some c :: rest =>
      if c.toNat < 0x20 then .error (.here (.breach .controlCharacter) rest)
      else literalFrom fuel sound (c :: read) rest
    | none :: rest => literalFrom fuel false read rest

/-- Reads a string literal after its opening quote. Every character takes a symbol at least, so the
number of symbols bounds the loop. -/
def literal (cs : List Utf8.Symbol) : Except Fault (String × List Utf8.Symbol) :=
  literalFrom (cs.length + 1) true [] cs

end Courier.Json
