import Courier.Http.Token
import Courier.Request
import Courier.Json.Printer

/-!
# Messages of the directory

What the directory is asked, and what it answers. A request names its target by a path and a query,
alone or in a whole URL.
-/

namespace Courier.Directory

/-- A request to the directory. -/
structure Inquiry where
  method : String
  path : List Char
  query : Option (List Char)
  headers : Headers
  body : List UInt8
deriving DecidableEq, Repr

/-- An answer of the directory. -/
structure Answer where
  status : Nat
  contentType : Option String
  allow : Option String
  body : String
deriving DecidableEq, Repr

/-- What follows a text, at its first occurrence. -/
def after? (mark : List Char) : List Char → Option (List Char)
  | [] => none
  | c :: cs =>
    if mark.isPrefixOf (c :: cs) then some ((c :: cs).drop mark.length) else after? mark cs

namespace Inquiry

/-- The path and the query of a target. A whole URL without a path has the path `/`; a fragment is
left out. -/
def splitTarget (target : List Char) : List Char × Option (List Char) :=
  let cs := target.takeWhile (· ≠ '#')
  let pathAndQuery :=
    if cs.head? = some '/' then some cs
    else (after? [':', '/', '/'] cs).map fun rest =>
      rest.dropWhile fun c => c ≠ '/' && c ≠ '?'
  match pathAndQuery with
  | none => ([], none)
  | some cs =>
    let path := cs.takeWhile (· ≠ '?')
    (if path.isEmpty then ['/'] else path, (cs.dropWhile (· ≠ '?')).tail?)

/-- A request for a target. Names of headers are in lower case. -/
def ofTarget (method target : String) (headers : Headers) (body : List UInt8) : Inquiry :=
  let (path, query) := splitTarget target.toList
  ⟨method, path, query, headers.map fun (name, value) => (Http.lowerName name, value), body⟩

/-- The first value of a header. -/
def header (name : String) (inquiry : Inquiry) : Option String :=
  (inquiry.headers.find? (·.1 = name)).map (·.2)

end Inquiry

namespace Answer

/-- An answer with a JSON body. -/
def json (status : Nat) (body : Json) : Answer :=
  ⟨status, some "application/json", none, body.text⟩

/-- An answer with a body of plain text. -/
def plain (status : Nat) (body : String) : Answer :=
  ⟨status, some "text/plain; charset=utf-8", none, body⟩

/-- An answer without a body. -/
def bare (status : Nat) : Answer :=
  ⟨status, none, none, ""⟩

end Answer

end Courier.Directory
