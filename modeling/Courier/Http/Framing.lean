import Courier.Http.Token
import Courier.Number.Reading
import Courier.Request
import Courier.Url.Ipv4

/-!
# Framing

A message says where its body ends: it announces the length of the body, or names chunks as the last
coding of its transfer. What is given for either is respected, even where it does not fit the body.
Only a length that is no number, or not one number, is put right.
-/

namespace Courier.Http

/-- The values of a name in use. -/
def valuesAt (name : String) (headers : Headers) : List String :=
  (headers.filter (·.1 = name)).map (·.2)

/-- Headers without those of a name in use. -/
def dropName (name : String) (headers : Headers) : Headers :=
  headers.filter (·.1 ≠ name)

/-- The pieces of a value between its commas. -/
def piecesOf (value : String) : List String :=
  (Url.splitAll (· = ',') value.toList).map fun piece => trimValue (String.ofList piece)

/-- A length in decimal that 64 bits hold. -/
def readLength (piece : String) : Option Nat :=
  (readNat piece.toList).filter (· < 18446744073709551616)

/-- The length that values announce: each of their pieces has to name the same. -/
def announcedLength (values : List String) : Option Nat :=
  match (values.flatMap piecesOf).mapM readLength with
  | some (n :: more) => if more.all (· = n) then some n else none
  | _ => none

/-- Whether a value names chunks as its last coding. Values beyond ASCII are not read. -/
def endsInChunks (value : String) : Bool :=
  value.toList.all (·.toNat < 0x80) && (piecesOf value).getLast?.map lowerName = some "chunked"

/-- Headers with chunks named last among the codings of the transfer. -/
def nameChunks : Headers → Headers
  | [] => []
  | (name, value) :: rest =>
    if name = "transfer-encoding" && rest.all (·.1 ≠ name) then
      (name, if endsInChunks value then value else value ++ ", chunked") :: rest
    else (name, value) :: nameChunks rest

/-- The headers and the body of a message as they are sent. Of a body that is longer than announced,
only the beginning is. -/
def frame (headers : Headers) (body : Option (List UInt8)) : Headers × Option (List UInt8) :=
  match body with
  | none => (dropName "transfer-encoding" headers, none)
  | some bytes =>
    let announced := announcedLength (valuesAt "content-length" headers)
    if headers.any (·.1 = "transfer-encoding") then
      (nameChunks (if announced.isSome then dropName "content-length" headers else headers),
        some bytes)
    else
      match announced with
      | some n => (headers, some (bytes.take n))
      | none => (dropName "content-length" headers ++ [("content-length", toString bytes.length)],
          some bytes)

end Courier.Http
