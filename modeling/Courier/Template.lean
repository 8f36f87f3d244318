import Courier.Text.Percent
import Courier.Json.Printer

/-!
# Path templates

A template has tokens such as `:id`. A value replaces the first token of its name that is left;
tokens without a value stay, and values without a token are ignored. What replaces a token is
percent-encoded, so it cannot add a separator.
-/

namespace Courier

/-- A value for a token. -/
inductive PathValue where
  | text (s : String)
  | integer (n : Int)
  | bool (b : Bool)
  | float (x : Binary64)
  | json (v : Json)

namespace PathValue

/-- The text that a value is written as, before it is encoded. -/
def render : PathValue → String
  | text s => s
  | integer n => String.ofList (Json.integerText n)
  | bool b => String.ofList (Json.boolText b)
  | float x => x.text
  | json v => v.text

end PathValue

namespace Template

/-- The characters that stay as they are in a value: ASCII letters and digits, and nine marks. -/
def isKept (c : Char) : Bool :=
  Percent.isAsciiAlnum c || c = '-' || c = '_' || c = '.' || c = '!' || c = '~' || c = '*' ||
    c = '\'' || c = '(' || c = ')'

/-- Puts `new` in the place of the first occurrence of `old`, if there is one. -/
def replaceFirst (old new : List Char) : List Char → List Char
  | [] => if old.isEmpty then new else []
  | c :: cs =>
    if old.isPrefixOf (c :: cs) then new ++ (c :: cs).drop old.length
    else c :: replaceFirst old new cs

/-- Puts a value in the place of the first token of a name. -/
def fillOne (template : List Char) (name value : String) : List Char :=
  replaceFirst (':' :: name.toList) (Percent.encodeChars isKept value.toList) template

/-- Puts values in the places of tokens, one after the other. -/
def fillChars (template : List Char) (values : List (String × String)) : List Char :=
  values.foldl (fun filled (name, value) => fillOne filled name value) template

/-- Puts values in the places of tokens, one after the other. -/
def fill (template : String) (values : List (String × String)) : String :=
  String.ofList (fillChars template.toList values)

end Template

end Courier
