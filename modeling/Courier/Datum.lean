import Courier.Json.Problem

/-!
# Typed data

The values of the types that endpoints take and give, and the JSON value that each is sent as. Not
all data can be sent: a name must become a string, an integer must fit 64 bits, and those who define
a type can refuse a value of it.
-/

namespace Courier

/-- Data of some type. -/
inductive Datum where
  | unit
  | bool (b : Bool)
  | integer (n : Int)
  | float (x : Binary64)
  | text (s : String)
  | json (v : Json)
  | absent
  | present (d : Datum)
  | list (items : List Datum)
  /-- Entries under names. -/
  | map (entries : List (String × Datum))
  /-- Entries under names that need not be strings. -/
  | keyed (entries : List (Json × Json))
  /-- The fields of a record in declared order. -/
  | record (fields : List (String × Datum))
  /-- An alternative without content. -/
  | variant (name : String)
  /-- An alternative with content. -/
  | tagged (name : String) (content : Datum)
  /-- A value that its own type refuses to send, with the wording of that. -/
  | refused (wording : String)

namespace Datum

/-- The string that a value becomes as a name. -/
def nameOf : Json → Except Problem String
  | .string s => .ok s
  | .bool b => .ok (String.ofList (Json.boolText b))
  | .number n => .ok (String.ofList (Json.numberText n))
  | .null | .array _ | .object _ => .error (.breach .keyMustBeString)

/-- Members under the strings that their names become. -/
def encodeKeyed : List (Json × Json) → Except Problem (List (String × Json))
  | [] => .ok []
  | (key, value) :: rest => do
    let name ← nameOf key
    let more ← encodeKeyed rest
    pure ((name, value) :: more)

mutual

/-- The JSON value that data is sent as. -/
def encode : Datum → Except Problem Json
  | .unit => .ok .null
  | .bool b => .ok (.bool b)
  | .integer n =>
    match JsonInteger.ofInt? n with
    | some i => .ok (.number (.integer i))
    | none => .error (.breach .numberOutOfRange)
  | .float x => .ok (.ofBinary64 x)
  | .text s => .ok (.string s)
  | .json v => .ok v
  | .absent => .ok .null
  | .present d => encode d
  | .list items => (encodeItems items).map .array
  | .map entries => (encodeEntries entries).map (.object ∘ Members.ofList)
  | .keyed entries => (encodeKeyed entries).map (.object ∘ Members.ofList)
  | .record fields => (encodeEntries fields).map (.object ∘ Members.ofList)
  | .variant name => .ok (.string name)
  | .tagged name content => (encode content).map fun v => .object [(name, v)]
  | .refused wording => .error (.own wording)

/-- The JSON values of some items; the first that cannot be sent decides. -/
def encodeItems : List Datum → Except Problem (List Json)
  | [] => .ok []
  | d :: rest => do
    let v ← encode d
    let more ← encodeItems rest
    pure (v :: more)

/-- The JSON values of some entries; the first that cannot be sent decides. -/
def encodeEntries : List (String × Datum) → Except Problem (List (String × Json))
  | [] => .ok []
  | (name, d) :: rest => do
    let v ← encode d
    let more ← encodeEntries rest
    pure ((name, v) :: more)

end

end Datum

end Courier
