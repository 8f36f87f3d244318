import Courier.PathParams

/-!
# Queries

A tree of JSON values as a flat list of names and texts. The name of a leaf is the name of its
top-level member, followed by `[name]` for each step into an object and `[]` for each step into a
list. `null` is left out, and so is all that is not an object at the top.
-/

namespace Courier.Query

mutual

/-- The pairs of a value under a name. -/
def flatten (name : String) : Json → List (String × String)
  | .null => []
  | .string s => [(name, s)]
  | .bool b => [(name, String.ofList (Json.boolText b))]
  | .number n => [(name, String.ofList (Json.numberText n))]
  | .array items => flattenItems (name ++ "[]") items
  | .object members => flattenMembers name members

/-- The pairs of the items of a list, all under one name. -/
def flattenItems (name : String) : List Json → List (String × String)
  | [] => []
  | item :: rest => flatten name item ++ flattenItems name rest

/-- The pairs of the members of an object under a name. -/
def flattenMembers (name : String) : List (String × Json) → List (String × String)
  | [] => []
  | (inner, value) :: rest =>
    flatten (name ++ "[" ++ inner ++ "]") value ++ flattenMembers name rest

end

/-- The pairs of a query. -/
def pairs : Json → List (String × String)
  | .object members => members.flatMap fun (name, value) => flatten name value
  | _ => []

end Courier.Query
