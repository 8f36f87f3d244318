import Courier.Http.Token

/-!
# Media types

The type of a body: two tokens with a slash between them, and parameters. A body is JSON if it is of
type `application` and its subtype is `json`, or ends in `+json`.
-/

namespace Courier.Http

/-- A media type in lower case, without its parameters. A subtype is cut at its last plus sign. -/
structure MediaType where
  type : List Char
  subtype : List Char
  suffix : Option (List Char)
deriving DecidableEq, Repr

namespace MediaType

/-- The characters between quotes in a parameter. -/
def isQuotedChar (c : Char) : Bool :=
  31 < c.toNat && c.toNat ≠ 127

/-- What follows a quoted value: blanks, and a semicolon or the end. -/
def afterQuotes (cs : List Char) : Option (List Char) :=
  match cs.dropWhile (· = ' ') with
  | [] => some []
  | ';' :: rest => some rest
  | _ => none

/-- What follows the value of a parameter. An empty value is only allowed at the end. -/
def afterValue (cs : List Char) : Option (List Char) :=
  match cs with
  | '"' :: quoted =>
    let inner := quoted.takeWhile fun c => isQuotedChar c && c ≠ '"'
    match quoted.dropWhile fun c => isQuotedChar c && c ≠ '"' with
    | '"' :: rest => if inner.isEmpty then none else afterQuotes rest
    | _ => none
  | _ =>
    let value := cs.takeWhile isTokenChar
    match cs.dropWhile isTokenChar with
    | [] => some []
    | ';' :: rest => if value.isEmpty then none else some rest
    | _ => none

/-- Whether a text is a list of parameters. Every parameter takes a character at least. -/
def areParameters : Nat → List Char → Bool
  | _, [] => true
  | 0, _ => false
  | fuel + 1, cs =>
    match cs with
    | ' ' :: rest => areParameters fuel rest
    | _ =>
      let name := cs.takeWhile isTokenChar
      match cs.dropWhile isTokenChar with
      | '=' :: value =>
        !name.isEmpty &&
          match afterValue value with
          | some rest => areParameters fuel rest
          | none => false
      | _ => false

/-- Cuts a subtype at its last plus sign, if that is not at its front. -/
def cutSuffix (cs : List Char) : List Char × Option (List Char) :=
  let suffix := (cs.reverse.takeWhile (· ≠ '+')).reverse
  let front := cs.take (cs.length - suffix.length - 1)
  if suffix.length < cs.length ∧ front ≠ [] then (front, some suffix) else (cs, none)

/-- Reads a media type. -/
def parse (s : String) : Option MediaType :=
  let cs := s.toList.map Char.toLower
  let type := cs.takeWhile isTokenChar
  match cs.dropWhile isTokenChar with
  | '/' :: rest =>
    let sub := rest.takeWhile isTokenChar
    let parameters := rest.dropWhile isTokenChar
    let sound := match parameters with
      | [] => true
      | ';' :: ps => !sub.isEmpty && areParameters ps.length ps
      | _ => false
    if type.isEmpty || !sound then none
    else
      let (subtype, suffix) := cutSuffix sub
      some ⟨type, subtype, suffix⟩
  | _ => none

/-- Whether bodies of a type are JSON. -/
def isJson (m : MediaType) : Bool :=
  m.type = "application".toList &&
    (m.subtype = "json".toList || m.suffix = some "json".toList)

end MediaType

end Courier.Http
