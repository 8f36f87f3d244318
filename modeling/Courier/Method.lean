import Courier.Shape.Reading

/-!
# Request methods

Seven methods have names of their own; any other token is a custom method. Tokens are compared as
they are, so `get` is custom. In a JSON text a method is written as its token.
-/

namespace Courier

/-- A request method. -/
inductive Method where
  | get
  | post
  | put
  | delete
  | patch
  | head
  | options
  | custom (token : String)
deriving DecidableEq, Repr

namespace Method

/-- The token that stands for a method in a request. -/
def token : Method → String
  | get => "GET"
  | post => "POST"
  | put => "PUT"
  | delete => "DELETE"
  | patch => "PATCH"
  | head => "HEAD"
  | options => "OPTIONS"
  | custom token => token

/-- The method that a part of a text stands for. Only a custom token is taken out of the text. -/
def ofSlice (part : String.Slice) : Method :=
  if part == "GET".toSlice then get
  else if part == "POST".toSlice then post
  else if part == "PUT".toSlice then put
  else if part == "DELETE".toSlice then delete
  else if part == "PATCH".toSlice then patch
  else if part == "HEAD".toSlice then head
  else if part == "OPTIONS".toSlice then options
  else custom part.copy

/-- The method that a whole text stands for. -/
def ofToken (token : String) : Method :=
  ofSlice token.toSlice

/-- A message shows a method by its token. -/
instance : ToString Method where
  toString := token

/-- Where a string is called for, a method stands for its token. -/
instance : Coe Method String where
  coe := token

/-- A method as a JSON value. -/
def toJson (m : Method) : Json :=
  .string m

/-- The method that data of the shape of a text holds. -/
def ofDatum : Datum → Method
  | .text token => ofToken token
  | _ => custom ""

/-- Reads a method from a JSON text. -/
def parse (s : String) : Except ReadError Method :=
  (Shape.text.parse s).map ofDatum

end Method

end Courier
