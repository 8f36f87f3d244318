import Courier.Shape.Basic
import Courier.Json.Value
import Courier.Json.Skipping
import Courier.Text.Blank

/-!
# Reading data of a shape

Data is read from the text itself and not from a JSON value, so a problem has its place, and a text
is only as well-formed as it has been read. A record can be given as an object or as the list of its
fields.
-/

namespace Courier.Shape

open Json

/-- Refuses a value of another type. Scalars are read first. -/
def refuse {α : Type} (expected : String) : Reader α :=
  let wrong (found : Found) (left : List Utf8.Symbol) : Except Fault (α × List Utf8.Symbol) :=
    .error (.here (.mismatch (.wrongType found expected)) left)
  fun cs =>
    match cs with
    | [] => .error (.ahead (.unfinished .value) [])
    | some 'n' :: rest => (word nullTail rest).bind fun left => wrong .null left
    | some 't' :: rest => (word trueTail rest).bind fun left => wrong (.bool true) left
    | some 'f' :: rest => (word falseTail rest).bind fun left => wrong (.bool false) left
    | some '"' :: rest => (literal rest).bind fun (s, left) => wrong (.string s) left
    | some '[' :: _ => wrong .list cs
    | some '\x7b' :: _ => wrong .map cs
    | c :: _ =>
      if c = some '-' ∨ isDigitSymbol c = true then
        (numeral cs).bind fun (n, left) => wrong (.ofNumber n) left
      else .error (.ahead (.breach .expectedValue) cs)

/-- Reads a value without content. -/
def readUnit (expected : String) : Reader Datum :=
  fun cs =>
    match skipSpace cs with
    | some 'n' :: rest => (word nullTail rest).map (.unit, ·)
    | left => refuse expected left

/-- Reads a truth value. -/
def readBool : Reader Datum :=
  fun cs =>
    match skipSpace cs with
    | some 't' :: rest => (word trueTail rest).map (.bool true, ·)
    | some 'f' :: rest => (word falseTail rest).map (.bool false, ·)
    | left => refuse "a boolean" left

/-- Reads a number and converts it. -/
def readNumber (expected : String) (convert : JsonNumber → Except Mismatch Datum) :
    Reader Datum :=
  fun cs =>
    match skipSpace cs with
    | [] => .error (.ahead (.unfinished .value) [])
    | c :: rest =>
      if c = some '-' ∨ isDigitSymbol c = true then
        match numeral (c :: rest) with
        | .error f => .error f
        | .ok (n, left) =>
          match convert n with
          | .ok d => .ok (d, left)
          | .error m => .error (.here (.mismatch m) left)
      else refuse expected (c :: rest)

/-- A number as an integer of a kind. -/
def toInteger (kind : IntegerKind) (n : JsonNumber) : Except Mismatch Datum :=
  match n with
  | .integer i =>
    if kind.least ≤ i.value ∧ i.value ≤ kind.greatest then .ok (.integer i.value)
    else .error (.wrongValue (.integer i.value) kind.name)
  | .float x => .error (.wrongType (.float x) kind.name)

/-- A number as a floating-point number. -/
def toFloat (n : JsonNumber) : Except Mismatch Datum :=
  match n with
  | .integer i => .ok (.float (.nearest (i.value < 0) i.value.natAbs 1))
  | .float x => .ok (.float (.finite x))

/-- Reads a string and converts it. -/
def readString {α : Type} (expected : String) (convert : String → Except Mismatch α) : Reader α :=
  fun cs =>
    match skipSpace cs with
    | some '"' :: rest =>
      match literal rest with
      | .error f => .error f
      | .ok (s, left) =>
        match convert s with
        | .ok d => .ok (d, left)
        | .error m => .error (.here (.mismatch m) left)
    | left => refuse expected left

/-- A string as a character. -/
def toChar (s : String) : Except Mismatch Datum :=
  match onlyChar s with
  | some _ => .ok (.text s)
  | none => .error (.wrongValue (.string s) "a character")

/-- Reads an optional value. -/
def readOption (inner : Reader Datum) : Reader Datum :=
  fun cs =>
    match skipSpace cs with
    | some 'n' :: rest => (word nullTail rest).map (.absent, ·)
    | left => (inner left).map fun (d, rest) => (.present d, rest)

/-- Reads a container after its opening bracket, if as many as `depth` may still be opened. -/
def opened {α : Type} (depth : Nat) (read : Nat → Reader α) : Reader α :=
  match depth with
  | 0 => refuseDepth
  | d + 1 => read d

/-- Reads a list by `list`, from its bracket on. -/
def readList (expected : String) (depth : Nat) (list : Nat → Reader Datum) : Reader Datum :=
  fun cs =>
    match skipSpace cs with
    | some '[' :: rest => opened depth list (some '[' :: rest)
    | left => refuse expected left

/-- Reads an object by `object`, from its brace on. -/
def readObject (expected : String) (depth : Nat) (object : Nat → Reader Datum) : Reader Datum :=
  fun cs =>
    match skipSpace cs with
    | some '\x7b' :: rest => opened depth object (some '\x7b' :: rest)
    | left => refuse expected left

/-- How a part of a record or a tuple is read: its name, its reader by the depth that is left, and
what it is where it is missing, from the end of a list and from an object. -/
structure Part where
  name : String
  read : Nat → Reader Datum
  beyondList : Option Datum
  notInObject : Option Datum

/-- Reads parts in order from the items of a list. -/
def partsFrom (expected : String) (depth : Nat) : Nat → List Part → Reader (List Datum)
  | _, [], cs => .ok ([], cs)
  | index, part :: more, cs =>
    match nextItem (index = 0) cs with
    | .error f => .error (f.within (.item index))
    | .ok (.done left) =>
      match part.beyondList with
      | some d => (partsFrom expected depth (index + 1) more left).map fun (ds, rest) =>
        (d :: ds, rest)
      | none => .error (.floating (.mismatch (.wrongLength index expected)) left)
    | .ok (.more left) =>
      match part.read depth left with
      | .error f => .error (f.within (.item index))
      | .ok (d, rest) => (partsFrom expected depth (index + 1) more rest).map fun (ds, tail) =>
        (d :: ds, tail)

/-- Reads parts in order from a list, from its bracket on. -/
def listOfParts (expected : String) (parts : List Part) (depth : Nat) : Reader (List Datum) :=
  fun cs => close endList (partsFrom expected depth 0 parts (cs.drop 1))

/-- Passes over the colon and the value of a member. -/
def skipMember (name : String) (cs : List Utf8.Symbol) : Except Fault (List Utf8.Symbol) :=
  match colon cs with
  | .error f => .error (f.within (.member name))
  | .ok left =>
    match skipValue left with
    | .error f => .error (f.within (.member name))
    | .ok rest => .ok rest

/-- Reads a member of a record, given the fields that were read before. -/
def readMember (strict : Bool) (parts : List Part) (depth : Nat) (before : List (String × Datum))
    (name : String) : Reader (List (String × Datum)) :=
  fun cs =>
    match parts.find? (·.name = name) with
    | some part =>
      if (Members.get? name before).isSome then
        .error (.floating (.mismatch (.duplicateField name)) cs)
      else (memberValue (part.read depth) name cs).map fun (d, left) => ((name, d) :: before, left)
    | none =>
      if strict then
        .error (.floating (.mismatch (.unknownField name (parts.map (·.name)))) cs)
      else (skipMember name cs).map fun left => (before, left)

/-- The fields of a record in declared order, from those that were read. -/
def complete (read : List (String × Datum)) : List Part → Except Mismatch (List Datum)
  | [] => .ok []
  | part :: more =>
    match (Members.get? part.name read).or part.notInObject with
    | some d => (complete read more).map (d :: ·)
    | none => .error (.missingField part.name)

/-- Reads the fields of a record from an object, from its brace on. -/
def objectOfParts (strict : Bool) (parts : List Part) (depth : Nat) : Reader (List Datum) :=
  fun cs =>
    let inner := cs.drop 1
    close endObject <|
      match membersFrom (readMember strict parts depth) (inner.length + 1) true [] inner with
      | .error f => .error f
      | .ok (read, left) =>
        match complete read parts with
        | .ok ds => .ok (ds, left)
        | .error m => .error (.floating (.mismatch m) left)

/-- Reads a record, as an object or as a list. -/
def readRecord (expected : String) (strict : Bool) (parts : List Part) (depth : Nat) :
    Reader Datum :=
  let named (ds : List Datum) : Datum := .record ((parts.map (·.name)).zip ds)
  let inList := expected ++ " with " ++ elements parts.length
  fun cs =>
    match skipSpace cs with
    | some '[' :: rest =>
      (opened depth (listOfParts inList parts) (some '[' :: rest)).map fun (ds, left) =>
        (named ds, left)
    | some '\x7b' :: rest =>
      (opened depth (objectOfParts strict parts) (some '\x7b' :: rest)).map fun (ds, left) =>
        (named ds, left)
    | left => refuse expected left

/-- How an alternative is read: what it is as a bare name, or the fault of that; and its content. -/
structure Alternative where
  name : String
  bare : Except Mismatch Datum
  content : Nat → Reader Datum

/-- The alternative of a name. -/
def findAlternative (alternatives : List Alternative) (name : String) :
    Except Mismatch Alternative :=
  match alternatives.find? (·.name = name) with
  | some a => .ok a
  | none => .error (.unknownVariant name (alternatives.map (·.name)))

/-- Reads an alternative with its content, from the brace on. -/
def taggedFrom (alternatives : List Alternative) (depth : Nat) : Reader Datum :=
  fun cs =>
    match readString "variant identifier" (findAlternative alternatives) (cs.drop 1) with
    | .error f => .error f
    | .ok (a, left) =>
      match colon left with
      | .error f => .error f
      | .ok left =>
        match a.content depth left with
        | .error f => .error f
        | .ok (d, left) =>
          match skipSpace left with
          | some '\x7d' :: rest => .ok (d, rest)
          | [] => .error (.here (.unfinished .object) [])
          | rest => .error (.here (.breach .expectedValue) rest)

/-- Reads one of several alternatives: a bare name, or an object of one member. -/
def readChoice (alternatives : List Alternative) (depth : Nat) : Reader Datum :=
  fun cs =>
    match skipSpace cs with
    | [] => .error (.ahead (.unfinished .value) [])
    | some '"' :: rest =>
      match readString "variant identifier" (findAlternative alternatives) (some '"' :: rest) with
      | .error f => .error f
      | .ok (a, left) =>
        match a.bare with
        | .ok d => .ok (d, left)
        | .error m => .error (.floating (.mismatch m) left)
    | some '\x7b' :: rest => opened depth (taggedFrom alternatives) (some '\x7b' :: rest)
    | left => .error (.ahead (.breach .expectedValue) left)

/-- What a missing field of a shape is, if nothing is declared for it. -/
def whenMissing : Shape → Option Datum
  | option _ => some .absent
  | _ => none

mutual

/-- Reads data of a shape in which at most so many containers are nested. -/
def read : Shape → Nat → Reader Datum
  | unit, _ => readUnit "unit"
  | marker name, _ => readUnit ("unit struct " ++ name)
  | bool, _ => readBool
  | integer kind, _ => readNumber kind.name (toInteger kind)
  | float, _ => readNumber "f64" toFloat
  | char, _ => readString "a character" toChar
  | text, _ => readString "a string" fun s => .ok (.text s)
  | json, depth => fun cs => (value depth cs).map fun (v, left) => (.json v, left)
  | option inner, depth => readOption (read inner depth)
  | list element, depth => readList "a sequence" depth fun d cs =>
    (listOf (read element d) cs).map fun (ds, left) => (.list ds, left)
  | tuple items, depth =>
    let parts := partsOf items
    let expected := s!"a tuple of size {items.length}"
    readList expected depth fun d cs =>
      (listOfParts expected parts d cs).map fun (ds, left) => (.list ds, left)
  | map element, depth => readObject "a map" depth fun d cs =>
    (objectOf (fun entries name cs =>
      (memberValue (read element d) name cs).map fun (v, left) =>
        (Members.insertSorted name v entries, left)) [] cs).map fun (entries, left) =>
          (.map entries, left)
  | record name strict fields, depth =>
    readRecord ("struct " ++ name) strict (fieldParts fields) depth
  | choice name variants, depth => readChoice (alternativesOf name variants) depth

/-- The parts of a tuple. -/
def partsOf : List Shape → List Part
  | [] => []
  | shape :: rest => ⟨"", read shape, none, none⟩ :: partsOf rest

/-- The parts of a record. -/
def fieldParts : List (FieldOf Shape) → List Part
  | [] => []
  | ⟨name, shape, fallback⟩ :: rest =>
    ⟨name, read shape, fallback, fallback.or (whenMissing shape)⟩ :: fieldParts rest

/-- The alternatives of a choice. -/
def alternativesOf (type : String) : List (String × ContentOf Shape) → List Alternative
  | [] => []
  | (name, content) :: rest => alternative type name content :: alternativesOf type rest

/-- An alternative of a choice. -/
def alternative (type name : String) : ContentOf Shape → Alternative
  | .nothing =>
    ⟨name, .ok (.variant name),
      fun _ cs => (readUnit "unit" cs).map fun (_, left) => (.variant name, left)⟩
  | .value shape =>
    ⟨name, .error (.wrongType .bareVariant "newtype variant"),
      fun depth cs => (read shape depth cs).map fun (d, left) => (.tagged name d, left)⟩
  | .record fields =>
    let parts := fieldParts fields
    ⟨name, .error (.wrongType .bareVariant "struct variant"),
      fun depth cs =>
        (readRecord ("struct variant " ++ type ++ "::" ++ name) false parts depth cs).map
          fun (d, left) => (.tagged name d, left)⟩

end

/-- Reads data of a shape from bytes, or finds the fault. -/
def parseSymbols (shape : Shape) (text : List Utf8.Symbol) : Except Fault Datum :=
  readAll (read shape depthLimit) text

/-- Reads data of a shape from a JSON text. -/
def parse (shape : Shape) (s : String) : Except ReadError Datum :=
  let text := Utf8.symbolsOf s
  match parseSymbols shape text with
  | .ok d => .ok d
  | .error f => .error (f.toError text)

/-- Reads the body of a reply. White space stands for `null`; a text that is no JSON of the shape is
taken as a string if the shape accepts that, else the problem with the JSON text is reported. -/
def decodeBody (shape : Shape) (body : String) : Except ReadError Datum :=
  if Text.isBlank body then
    match ofNull shape with
    | .ok d => .ok d
    | .error m => .error (.unplaced (.mismatch m))
  else
    match parse shape body with
    | .ok d => .ok d
    | .error e =>
      match ofText shape body with
      | .ok d => .ok d
      | .error _ => .error e

end Courier.Shape
