import Courier.Json.Numeral
import Courier.Json.Literal

/-!
# Reading JSON values

Lists and objects are read by a loop over their parts, given a reader for one part; the reader of
values ties the knot by the number of containers that may still be opened.
-/

namespace Courier.Json

/-- How many containers may be open at once. -/
def depthLimit : Nat := 127

/-- Refuses a container that would be nested too deeply. -/
def refuseDepth {α : Type} : Reader α :=
  fun cs => .error (.ahead (.breach .tooDeep) cs)

/-- Reads the items of a list up to the closing bracket. Every item takes a symbol at least, so the
number of symbols bounds the loop. -/
def itemsFrom {α : Type} (item : Reader α) : Nat → Bool → Nat → Reader (List α)
  | 0, _, _, cs => .error (.ahead (.unfinished .list) cs)
  | fuel + 1, first, index, cs =>
    match nextItem first cs with
    | .error f => .error (f.within (.item index))
    | .ok (.done left) => .ok ([], left)
    | .ok (.more left) =>
      match item left with
      | .error f => .error (f.within (.item index))
      | .ok (x, rest) =>
        match itemsFrom item fuel false (index + 1) rest with
        | .error f => .error f
        | .ok (xs, tail) => .ok (x :: xs, tail)

/-- Reads a list from its opening bracket on. -/
def listOf {α : Type} (item : Reader α) : Reader (List α) :=
  fun cs =>
    let inner := cs.drop 1
    close endList (itemsFrom item (inner.length + 1) true 0 inner)

/-- Reads the members of an object up to the closing brace, each by `member` from its name and what
follows it. -/
def membersFrom {σ : Type} (member : σ → String → Reader σ) : Nat → Bool → σ → Reader σ
  | 0, _, _, cs => .error (.ahead (.unfinished .object) cs)
  | fuel + 1, first, state, cs =>
    match nextMember first cs with
    | .error f => .error f
    | .ok (.done left) => .ok (state, left)
    | .ok (.more left) =>
      match literal (left.drop 1) with
      | .error f => .error f
      | .ok (name, rest) =>
        match member state name rest with
        | .error f => .error f
        | .ok (next, rest) => membersFrom member fuel false next rest

/-- Reads an object from its opening brace on. -/
def objectOf {σ : Type} (member : σ → String → Reader σ) (start : σ) : Reader σ :=
  fun cs =>
    let inner := cs.drop 1
    close endObject (membersFrom member (inner.length + 1) true start inner)

/-- Reads the colon and the value of a member. -/
def memberValue {α : Type} (value : Reader α) (name : String) : Reader α :=
  fun cs =>
    match colon cs with
    | .error f => .error (f.within (.member name))
    | .ok left =>
      match value left with
      | .error f => .error (f.within (.member name))
      | .ok r => .ok r

/-- Reads a member of an object that keeps the last value of each name. -/
def keepMember (value : Reader Json) (members : List (String × Json)) (name : String) :
    Reader (List (String × Json)) :=
  fun cs => (memberValue value name cs).map fun (v, left) => (Members.insert name v members, left)

/-- Reads a value, given readers for the two kinds of containers. -/
def valueWith (list : Reader (List Json)) (object : Reader (List (String × Json))) :
    Reader Json :=
  fun cs =>
    match skipSpace cs with
    | [] => .error (.ahead (.unfinished .value) [])
    | some 'n' :: rest => (word nullTail rest).map (.null, ·)
    | some 't' :: rest => (word trueTail rest).map (.bool true, ·)
    | some 'f' :: rest => (word falseTail rest).map (.bool false, ·)
    | some '"' :: rest => (literal rest).map fun (s, left) => (.string s, left)
    | some '[' :: rest => (list (some '[' :: rest)).map fun (items, left) => (.array items, left)
    | some '\x7b' :: rest =>
      (object (some '\x7b' :: rest)).map fun (members, left) => (.object members, left)
    | c :: rest =>
      if c = some '-' ∨ isDigitSymbol c = true then
        (numeral (c :: rest)).map fun (n, left) => (.number n, left)
      else .error (.ahead (.breach .expectedValue) (c :: rest))

/-- Reads a value in which at most so many containers are nested. -/
def value : Nat → Reader Json
  | 0 => valueWith refuseDepth refuseDepth
  | depth + 1 => valueWith (listOf (value depth)) (objectOf (keepMember (value depth)) [])

/-- Reads a whole text: a value and white space. -/
def readAll {α : Type} (reader : Reader α) (text : List Utf8.Symbol) : Except Fault α :=
  match reader text with
  | .error f => .error f
  | .ok (v, left) =>
    match skipSpace left with
    | [] => .ok v
    | rest => .error (.ahead (.breach .trailingCharacters) rest)

/-- The value of a JSON text. -/
def parse (s : String) : Except ReadError Json :=
  let text := Utf8.symbolsOf s
  match readAll (value depthLimit) text with
  | .ok v => .ok v
  | .error f => .error (f.toError text)

/-- The value of a text if it is JSON, else the text itself as a string. -/
def parseOrString (s : String) : Json :=
  match parse s with
  | .ok v => v
  | .error _ => .string s

end Courier.Json
