import Courier.Text.Percent

/-!
# Words of HTTP

Methods and names of headers are tokens. Names are limited in length; values can hold any text
without control characters, tabs excepted.
-/

namespace Courier.Http

/-- The characters of tokens. -/
def isTokenChar (c : Char) : Bool :=
  Percent.isAsciiAlnum c || c = '!' || c = '#' || c = '$' || c = '%' || c = '&' || c = '\'' ||
    c = '*' || c = '+' || c = '-' || c = '.' || c = '^' || c = '_' || c.toNat = 0x60 ||
    c = '|' || c = '~'

/-- Whether a text is a token. -/
def isToken (s : String) : Bool :=
  !s.isEmpty && s.toList.all isTokenChar

/-- The greatest length of the name of a header. -/
def greatestNameLength : Nat := 65535

/-- Whether a text can be the name of a header. -/
def isHeaderName (s : String) : Bool :=
  isToken s && s.utf8ByteSize ≤ greatestNameLength

/-- Whether a text can be the value of a header. -/
def isHeaderValue (s : String) : Bool :=
  s.toList.all fun c => c = '\t' || (0x20 ≤ c.toNat && c.toNat ≠ 0x7F)

/-- A name in lower case, as it is sent. -/
def lowerName (name : String) : String :=
  String.ofList (name.toList.map Char.toLower)

/-- A text without blanks and tabs at its ends. -/
def trimValue (s : String) : String :=
  let isEdge (c : Char) : Bool := c = ' ' || c = '\t'
  String.ofList ((s.toList.dropWhile isEdge).reverse.dropWhile isEdge).reverse

end Courier.Http
