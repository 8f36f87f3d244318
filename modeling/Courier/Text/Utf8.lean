/-!
# UTF-8

Text as bytes and back. Bytes need not be well-formed: `scan` cuts any byte string into characters
and ill-formed pieces, where a piece is the longest start of a well-formed sequence (or one byte
that starts none). Readers choose what to do with the ill-formed pieces: replace each of them
(`decodeLossy`), refuse the text at the first (`decode`), or go on byte by byte (`toSymbols`).
-/

namespace Courier.Utf8

/-- A character or an ill-formed piece of a byte string. -/
inductive Piece where
  | char (c : Char)
  /-- The bytes of the piece, and whether the byte string ended inside it. -/
  | broken (bytes : List UInt8) (cut : Bool)
deriving DecidableEq, Repr

/-- A sequence that has begun: how many bytes are missing, between which bounds the next one must
lie, the code point so far, and the bytes so far. -/
structure Pending where
  missing : Nat
  low : UInt8
  high : UInt8
  point : Nat
  bytes : List UInt8
deriving DecidableEq, Repr

/-- What a byte at the start of a sequence means. -/
inductive Lead where
  | char (c : Char)
  | begins (p : Pending)
  | stray
deriving DecidableEq, Repr

/-- The table of well-formed sequences, read by first byte. The bounds on the second byte exclude
overlong forms, surrogates and code points beyond U+10FFFF. -/
def lead (b : UInt8) : Lead :=
  if b < 0x80 then .char (Char.ofNat b.toNat)
  else if b < 0xC2 then .stray
  else if b < 0xE0 then .begins ⟨1, 0x80, 0xBF, b.toNat - 0xC0, [b]⟩
  else if b = 0xE0 then .begins ⟨2, 0xA0, 0xBF, 0, [b]⟩
  else if b = 0xED then .begins ⟨2, 0x80, 0x9F, 0xD, [b]⟩
  else if b < 0xF0 then .begins ⟨2, 0x80, 0xBF, b.toNat - 0xE0, [b]⟩
  else if b = 0xF0 then .begins ⟨3, 0x90, 0xBF, 0, [b]⟩
  else if b < 0xF4 then .begins ⟨3, 0x80, 0xBF, b.toNat - 0xF0, [b]⟩
  else if b = 0xF4 then .begins ⟨3, 0x80, 0x8F, 4, [b]⟩
  else .stray

/-- The sequence after one more byte within its bounds. -/
def Pending.push (p : Pending) (b : UInt8) : Pending :=
  ⟨p.missing - 1, 0x80, 0xBF, p.point * 64 + (b.toNat - 0x80), p.bytes ++ [b]⟩

/-- Cuts bytes into pieces, going on from a sequence that has begun. -/
def scanFrom : Option Pending → List UInt8 → List Piece
  | none, [] => []
  | some p, [] => [.broken p.bytes true]
  | none, b :: rest =>
    match lead b with
    | .char c => .char c :: scanFrom none rest
    | .begins p => scanFrom (some p) rest
    | .stray => .broken [b] false :: scanFrom none rest
  | some p, b :: rest =>
    if p.low ≤ b ∧ b ≤ p.high then
      let q := p.push b
      if q.missing = 0 then .char (Char.ofNat q.point) :: scanFrom none rest
      else scanFrom (some q) rest
    else
      .broken p.bytes false ::
        match lead b with
        | .char c => .char c :: scanFrom none rest
        | .begins q => scanFrom (some q) rest
        | .stray => .broken [b] false :: scanFrom none rest

/-- Cuts a byte string into characters and ill-formed pieces. -/
def scan (bytes : List UInt8) : List Piece :=
  scanFrom none bytes

/-- The bytes of a list of characters. -/
def encodeChars (cs : List Char) : List UInt8 :=
  cs.flatMap String.utf8EncodeChar

/-- The bytes of a text. -/
def encode (s : String) : List UInt8 :=
  encodeChars s.toList

/-- Reads bytes as text, with U+FFFD for each ill-formed piece. -/
def decodeLossy (bytes : List UInt8) : String :=
  String.ofList ((scan bytes).map fun
    | .char c => c
    | .broken _ _ => '\uFFFD')

/-- The first ill-formed piece: the index of its first byte, and its length unless the byte string
ended inside it. -/
structure Flaw where
  index : Nat
  length : Option Nat
deriving DecidableEq, Repr

/-- The wording for bytes that are no text. -/
def Flaw.message (f : Flaw) : String :=
  match f.length with
  | some n => s!"invalid utf-8 sequence of {n} bytes from index {f.index}"
  | none => s!"incomplete utf-8 byte sequence from index {f.index}"

/-- Reads pieces as text from the byte `index` on, or finds the first flaw. -/
def decodePieces (index : Nat) : List Piece → Except Flaw (List Char)
  | [] => .ok []
  | .char c :: rest =>
    match decodePieces (index + c.utf8Size) rest with
    | .ok cs => .ok (c :: cs)
    | .error f => .error f
  | .broken bytes cut :: _ => .error ⟨index, if cut then none else some bytes.length⟩

/-- Reads bytes as text, or finds the first flaw. -/
def decode (bytes : List UInt8) : Except Flaw String :=
  (decodePieces 0 (scan bytes)).map String.ofList

/-- A character, or `none` for a byte that belongs to no character. -/
abbrev Symbol := Option Char

/-- The bytes that a symbol takes. -/
def Symbol.size : Symbol → Nat
  | some c => c.utf8Size
  | none => 1

/-- A text as symbols. -/
def symbolsOf (s : String) : List Symbol :=
  s.toList.map some

/-- Bytes as symbols: each byte of an ill-formed piece is a symbol of its own. -/
def toSymbols (bytes : List UInt8) : List Symbol :=
  (scan bytes).flatMap fun
    | .char c => [some c]
    | .broken bs _ => bs.map fun _ => none

end Courier.Utf8
