import Courier.Request
import Courier.Shape.Reading

/-!
# Responses

A response as it came has a body of text. Decoded, it is an envelope with data in place of the body.
-/

namespace Courier

/-- A response as it came. -/
structure Response where
  status : UInt16
  headers : Headers
  body : String
deriving DecidableEq, Repr

/-- A response with decoded data. -/
structure Envelope (α : Type) where
  status : UInt16
  headers : Headers
  data : α

/-- Whether two texts are equal but for the case of ASCII letters. -/
def sameIgnoringCase (a b : String) : Bool :=
  a.toList.map Char.toLower = b.toList.map Char.toLower

namespace Envelope

/-- The first value of a header, whatever the case of its name. -/
def header {α : Type} (name : String) (e : Envelope α) : Option String :=
  (e.headers.find? fun (n, _) => sameIgnoringCase n name).map (·.2)

/-- The envelope with other data. -/
def map {α β : Type} (f : α → β) (e : Envelope α) : Envelope β :=
  ⟨e.status, e.headers, f e.data⟩

end Envelope

namespace Response

/-- The envelope with data in place of the body. -/
def withData {α : Type} (response : Response) (data : α) : Envelope α :=
  ⟨response.status, response.headers, data⟩

/-- Decodes the body as data of a shape. -/
def decode (shape : Shape) (response : Response) : Except ReadError (Envelope Datum) :=
  (shape.decodeBody response.body).map response.withData

/-- Decodes the body as any JSON value. White space stands for `null`, and a text that is not JSON
for itself. -/
def decodeLenient (response : Response) : Envelope Json :=
  response.withData <|
    if Text.isBlank response.body then .null else Json.parseOrString response.body

end Response

end Courier
