import Courier.Json.Printer
import Courier.Text.Quoted

/-!
# What can be wrong with a JSON text

A text can break the grammar, end too early, or be well-formed and still not be what was asked for.
A value can also be refused by those who defined its type, in their own words. Each cause is a
constructor; `Problem.message` has the wording.
-/

namespace Courier

/-- What a text or a value turned out to be, where something else was expected. -/
inductive Found where
  | null
  | bool (b : Bool)
  | integer (n : Int)
  | float (x : Finite64)
  | string (s : String)
  | list
  | map
  | bareVariant
deriving DecidableEq

/-- Places in the grammar where the text can end too early. -/
inductive Unfinished where
  | value
  | string
  | list
  | object
deriving DecidableEq, Repr

/-- Breaches of the grammar and of its limits. -/
inductive Breach where
  | expectedColon
  | expectedListCommaOrEnd
  | expectedObjectCommaOrEnd
  | expectedIdentifier
  | expectedValue
  | invalidEscape
  | invalidNumber
  | numberOutOfRange
  | invalidCodePoint
  | controlCharacter
  | keyMustBeString
  | loneSurrogate
  | trailingComma
  | trailingCharacters
  | unfinishedEscape
  | tooDeep
deriving DecidableEq, Repr

/-- A well-formed value that does not fit. -/
inductive Mismatch where
  | wrongType (found : Found) (expected : String)
  | wrongValue (found : Found) (expected : String)
  | wrongLength (length : Nat) (expected : String)
  | unknownVariant (name : String) (known : List String)
  | unknownField (name : String) (known : List String)
  | missingField (name : String)
  | duplicateField (name : String)
deriving DecidableEq

/-- Why a text cannot be read, or a value cannot be converted. -/
inductive Problem where
  | unfinished (u : Unfinished)
  | breach (b : Breach)
  | mismatch (m : Mismatch)
  /-- In the words of those who defined the type of a value. -/
  | own (wording : String)
deriving DecidableEq

/-- The three kinds of problems: the text ends too early, breaks the grammar, or does not fit. -/
inductive Category where
  | eof
  | grammar
  | data
deriving DecidableEq, Repr

namespace Found

/-- The wording for what was found. -/
def describe : Found → String
  | null => "null"
  | bool b => s!"boolean `{b}`"
  | integer n => s!"integer `{n}`"
  | float x => "floating point `" ++ String.ofList (NumberLayout.json.finite x) ++ "`"
  | string s => "string " ++ Text.quoted s
  | list => "sequence"
  | map => "map"
  | bareVariant => "unit variant"

/-- A number that was found. -/
def ofNumber : JsonNumber → Found
  | .integer n => .integer n.value
  | .float x => .float x

/-- A value that was found. -/
def ofJson : Json → Found
  | .null => .null
  | .bool b => .bool b
  | .number n => ofNumber n
  | .string s => .string s
  | .array _ => .list
  | .object _ => .map

end Found

/-- The wording for a text that ends too early. -/
def Unfinished.message : Unfinished → String
  | value => "EOF while parsing a value"
  | string => "EOF while parsing a string"
  | list => "EOF while parsing a list"
  | object => "EOF while parsing an object"

/-- The wording for a breach of the grammar. -/
def Breach.message : Breach → String
  | expectedColon => "expected `:`"
  | expectedListCommaOrEnd => "expected `,` or `]`"
  | expectedObjectCommaOrEnd => "expected `,` or `\x7d`"
  | expectedIdentifier => "expected ident"
  | expectedValue => "expected value"
  | invalidEscape => "invalid escape"
  | invalidNumber => "invalid number"
  | numberOutOfRange => "number out of range"
  | invalidCodePoint => "invalid unicode code point"
  | controlCharacter => "control character (\\u0000-\\u001F) found while parsing a string"
  | keyMustBeString => "key must be a string"
  | loneSurrogate => "lone leading surrogate in hex escape"
  | trailingComma => "trailing comma"
  | trailingCharacters => "trailing characters"
  | unfinishedEscape => "unexpected end of hex escape"
  | tooDeep => "recursion limit exceeded"

/-- A name between backquotes. -/
def backquoted (name : String) : String :=
  "`" ++ name ++ "`"

/-- The known names as a message lists them; `nothing` is said where there are none. -/
def oneOf (nothing : String) : List String → String
  | [] => nothing
  | [a] => "expected " ++ backquoted a
  | [a, b] => "expected " ++ backquoted a ++ " or " ++ backquoted b
  | names => "expected one of " ++ ", ".intercalate (names.map backquoted)

/-- The wording for a value that does not fit. -/
def Mismatch.message : Mismatch → String
  | wrongType found expected => s!"invalid type: {found.describe}, expected {expected}"
  | wrongValue found expected => s!"invalid value: {found.describe}, expected {expected}"
  | wrongLength length expected => s!"invalid length {length}, expected {expected}"
  | unknownVariant name known =>
    s!"unknown variant `{name}`, " ++ oneOf "there are no variants" known
  | unknownField name known => s!"unknown field `{name}`, " ++ oneOf "there are no fields" known
  | missingField name => s!"missing field `{name}`"
  | duplicateField name => s!"duplicate field `{name}`"

namespace Problem

/-- The wording of a problem. -/
def message : Problem → String
  | unfinished u => u.message
  | breach b => b.message
  | mismatch m => m.message
  | own wording => wording

/-- The kind of a problem. -/
def category : Problem → Category
  | unfinished _ => .eof
  | breach _ => .grammar
  | mismatch _ | own _ => .data

end Problem

/-- A line and a column, both as messages show them. -/
structure Place where
  line : Nat
  column : Nat
deriving DecidableEq, Repr

/-- A problem, with its place if it came from a text. -/
structure ReadError where
  problem : Problem
  place : Option Place
deriving DecidableEq

namespace ReadError

/-- A problem that has no place. -/
def unplaced (problem : Problem) : ReadError :=
  ⟨problem, none⟩

/-- The wording, with the place at the end. -/
def message (e : ReadError) : String :=
  match e.place with
  | some p => s!"{e.problem.message} at line {p.line} column {p.column}"
  | none => e.problem.message

end ReadError

end Courier
