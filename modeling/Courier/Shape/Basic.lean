import Courier.Datum

/-!
# Shapes

A shape is a type of data that can be read from JSON. It says what is accepted; how it is called in
messages is part of it.
-/

namespace Courier

/-- An integer type: its name and its bounds. -/
structure IntegerKind where
  name : String
  least : Int
  greatest : Int
deriving DecidableEq, Repr

namespace IntegerKind

/-- The unsigned integers of so many bits. -/
def unsigned (bits : Nat) : IntegerKind :=
  ⟨"u" ++ toString bits, 0, (Nat.pow 2 bits : Nat) - 1⟩

/-- The signed integers of so many bits. -/
def signed (bits : Nat) : IntegerKind :=
  ⟨"i" ++ toString bits, -(Nat.pow 2 (bits - 1) : Nat), (Nat.pow 2 (bits - 1) : Nat) - 1⟩

end IntegerKind

/-- A field of a record. If it has a fallback, it may be missing. -/
structure FieldOf (σ : Type) where
  name : String
  shape : σ
  fallback : Option Datum

/-- What an alternative of a choice holds. -/
inductive ContentOf (σ : Type) where
  | nothing
  | value (shape : σ)
  | record (fields : List (FieldOf σ))

/-- A type of data. -/
inductive Shape where
  | unit
  /-- A type with one value, sent as `null`. -/
  | marker (name : String)
  | bool
  | integer (kind : IntegerKind)
  | float
  | char
  | text
  | json
  | option (inner : Shape)
  | list (element : Shape)
  | tuple (items : List Shape)
  /-- Entries under any names, kept in the order of the names. -/
  | map (element : Shape)
  /-- A record; a strict one refuses fields that it does not know. -/
  | record (name : String) (strict : Bool) (fields : List (FieldOf Shape))
  /-- One of several named alternatives. -/
  | choice (name : String) (variants : List (String × ContentOf Shape))

/-- A field of a record. -/
abbrev Field := FieldOf Shape

/-- What an alternative holds. -/
abbrev Content := ContentOf Shape

namespace Shape

/-- A field that may not be missing, unless its shape is an option. -/
def field (name : String) (shape : Shape) : Field :=
  ⟨name, shape, none⟩

/-- A field that takes a value of its own where it is missing. -/
def fieldOr (name : String) (shape : Shape) (fallback : Datum) : Field :=
  ⟨name, shape, some fallback⟩

/-- What messages call a shape. -/
def expected : Shape → String
  | unit => "unit"
  | marker name => "unit struct " ++ name
  | bool => "a boolean"
  | integer kind => kind.name
  | float => "f64"
  | char => "a character"
  | text => "a string"
  | json => "any valid JSON value"
  | option _ => "option"
  | list _ => "a sequence"
  | tuple items => s!"a tuple of size {items.length}"
  | map _ => "a map"
  | record name _ _ => "struct " ++ name
  | choice name _ => "enum " ++ name

/-- A count of elements in words. -/
def elements (n : Nat) : String :=
  if n = 1 then "1 element" else s!"{n} elements"

/-- The alternative of a name. -/
def variant? (name : String) (variants : List (String × Content)) : Option Content :=
  Members.get? name variants

/-- The only character of a text. -/
def onlyChar (s : String) : Option Char :=
  match s.toList with
  | [c] => some c
  | _ => none

/-- The data that `null` stands for. -/
def ofNull : Shape → Except Mismatch Datum
  | unit | marker _ => .ok .unit
  | json => .ok (.json .null)
  | option _ => .ok .absent
  | choice _ _ => .error (.wrongType .null "string or map")
  | shape => .error (.wrongType .null shape.expected)

/-- The data that a string stands for. -/
def ofText : Shape → String → Except Mismatch Datum
  | text, s => .ok (.text s)
  | char, s =>
    match onlyChar s with
    | some _ => .ok (.text s)
    | none => .error (.wrongValue (.string s) "a character")
  | json, s => .ok (.json (.string s))
  | option inner, s => (ofText inner s).map .present
  | choice _ variants, s =>
    match variant? s variants with
    | some .nothing => .ok (.variant s)
    | some (.value _) => .error (.wrongType .bareVariant "newtype variant")
    | some (.record _) => .error (.wrongType .bareVariant "struct variant")
    | none => .error (.unknownVariant s (variants.map (·.1)))
  | shape, s => .error (.wrongType (.string s) shape.expected)

end Shape

end Courier
