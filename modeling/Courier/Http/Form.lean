import Courier.Text.Percent
import Courier.Url.Ipv4

/-!
# Form encoding

Pairs of texts as one text: `name=value` with `&` between pairs. A space is written as a plus sign,
and all but letters, digits and four marks is escaped byte by byte. The reader takes any text:
pieces without an equal sign are names, empty pieces are left out, and bytes that are no UTF-8 are
replaced.
-/

namespace Courier.Http.Form

/-- The characters that stand for themselves. -/
def isKept (c : Char) : Bool :=
  Percent.isAsciiAlnum c || c = '*' || c = '-' || c = '.' || c = '_'

/-- A character of a name or a value. -/
def encodeChar (c : Char) : List Char :=
  if c = ' ' then ['+'] else Percent.encodeChar isKept c

/-- A name or a value. -/
def encodeText (s : String) : List Char :=
  s.toList.flatMap encodeChar

/-- A pair. -/
def encodePair (pair : String × String) : List Char :=
  encodeText pair.1 ++ '=' :: encodeText pair.2

/-- Pairs added to the text of others. Nothing is put in front of the first if there is no text. -/
def append (text : List Char) (pairs : List (String × String)) : List Char :=
  pairs.foldl
    (fun text pair => text ++ (if text.isEmpty then [] else ['&']) ++ encodePair pair) text

/-- A name or a value as it was before it was encoded. -/
def decodeText (cs : List Char) : String :=
  Utf8.decodeLossy (Percent.decodeChars (cs.map fun c => if c = '+' then ' ' else c))

/-- The pair that a piece stands for. -/
def decodePair (piece : List Char) : String × String :=
  (decodeText (piece.takeWhile (· ≠ '=')), decodeText ((piece.dropWhile (· ≠ '=')).drop 1))

/-- The pairs that a text stands for. -/
def decode (text : List Char) : List (String × String) :=
  ((Url.splitAll (· = '&') text).filter fun piece => !piece.isEmpty).map decodePair

end Courier.Http.Form
