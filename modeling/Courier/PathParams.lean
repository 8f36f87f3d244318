import Courier.Json.Printer

/-!
# Path parameters

The values for a template, taken from a JSON value: the members of an object, each a string, a
number or a truth value. `null` stands for no values.
-/

namespace Courier

/-- Why a value holds no path parameters. -/
inductive ParamsError where
  /-- It is neither `null` nor an object. -/
  | notAnObject
  /-- The first member with a value that has no text. -/
  | badValue (name : String)
deriving DecidableEq, Repr

/-- The text of a string, a number or a truth value. -/
def scalarText? : Json → Option String
  | .string s => some s
  | .number n => some (String.ofList (Json.numberText n))
  | .bool b => some (String.ofList (Json.boolText b))
  | .null | .array _ | .object _ => none

namespace PathParams

/-- The texts of some members; the first without a text decides. -/
def ofMembers : List (String × Json) → Except ParamsError (List (String × String))
  | [] => .ok []
  | (name, value) :: rest =>
    match scalarText? value with
    | none => .error (.badValue name)
    | some text => (ofMembers rest).map ((name, text) :: ·)

/-- The path parameters that a value holds. -/
def ofJson : Json → Except ParamsError (List (String × String))
  | .null => .ok []
  | .object members => ofMembers members
  | _ => .error .notAnObject

end PathParams

end Courier
