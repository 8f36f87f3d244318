import Courier.Json.Problem
import Courier.Text.Utf8
import Courier.Number.Reading

/-!
# Reading JSON text: the common parts

A reader takes the symbols that are left and returns a value and what is left after it, or a fault.
A fault remembers what was left where it arose, so its line and column are found afterwards from the
whole text. Nothing else depends on positions.
-/

namespace Courier

/-- A step from a container to one of its parts. -/
inductive Step where
  | member (name : String)
  | item (index : Nat)
deriving DecidableEq

/-- A problem met while reading. It arose `extra` bytes after the start of `left`. While it is not
`settled`, it takes its place from the end of the container around it. `trail` leads from the whole
value to the part that has the problem. -/
structure Fault where
  problem : Problem
  left : List Utf8.Symbol
  extra : Nat
  settled : Bool
  trail : List Step
deriving DecidableEq

/-- A reader of values from the symbols that are left. -/
abbrev Reader (α : Type) :=
  List Utf8.Symbol → Except Fault (α × List Utf8.Symbol)

namespace Fault

/-- A problem at the next symbol: the place is that of the last byte read. -/
def here (problem : Problem) (left : List Utf8.Symbol) : Fault :=
  ⟨problem, left, 0, true, []⟩

/-- A problem with the next byte, whose own place is given. -/
def ahead (problem : Problem) (left : List Utf8.Symbol) : Fault :=
  ⟨problem, left, 1, true, []⟩

/-- A problem that gets its place later. -/
def floating (problem : Problem) (left : List Utf8.Symbol) : Fault :=
  ⟨problem, left, 0, false, []⟩

/-- Gives a problem its place at the next symbol unless it has one. -/
def settle (left : List Utf8.Symbol) (f : Fault) : Fault :=
  if f.settled then f else { f with left := left, extra := 0, settled := true }

/-- The problem seen from the container around it. -/
def within (step : Step) (f : Fault) : Fault :=
  { f with trail := step :: f.trail }

end Fault

/-- How many bytes some symbols take. -/
def sizeOfSymbols (cs : List Utf8.Symbol) : Nat :=
  cs.foldr (fun c size => c.size + size) 0

/-- The line and column after `bytes` bytes of a text: columns count the bytes since the last line
break. -/
def placeAfter : Nat → List Utf8.Symbol → Place → Place
  | _, [], p => p
  | bytes, c :: cs, p =>
    if bytes = 0 then p
    else if bytes < c.size then ⟨p.line, p.column + bytes⟩
    else if c = some '\n' then placeAfter (bytes - 1) cs ⟨p.line + 1, 0⟩
    else placeAfter (bytes - c.size) cs ⟨p.line, p.column + c.size⟩

/-- The error of a fault in a text. -/
def Fault.toError (text : List Utf8.Symbol) (f : Fault) : ReadError :=
  if f.settled then
    let offset := sizeOfSymbols text - sizeOfSymbols f.left + f.extra
    ⟨f.problem, some (placeAfter offset text ⟨1, 0⟩)⟩
  else .unplaced f.problem

namespace Json

/-- The white space of JSON. -/
def isSpace (s : Utf8.Symbol) : Bool :=
  s = some ' ' || s = some '\t' || s = some '\n' || s = some '\r'

/-- What is left after white space. -/
def skipSpace (cs : List Utf8.Symbol) : List Utf8.Symbol :=
  cs.dropWhile isSpace

/-- Whether a symbol is a digit. -/
def isDigitSymbol : Utf8.Symbol → Bool
  | some c => isDigit c
  | none => false

/-- Reads the rest of a word. -/
def word : List Char → List Utf8.Symbol → Except Fault (List Utf8.Symbol)
  | [], cs => .ok cs
  | _ :: _, [] => .error (.here (.unfinished .value) [])
  | w :: ws, c :: cs =>
    if c = some w then word ws cs else .error (.ahead (.breach .expectedIdentifier) (c :: cs))

/-- The rest of `null`, `true` and `false` after the first letter. -/
def nullTail : List Char := ['u', 'l', 'l']

@[inherit_doc nullTail]
def trueTail : List Char := ['r', 'u', 'e']

@[inherit_doc nullTail]
def falseTail : List Char := ['a', 'l', 's', 'e']

/-- Reads the colon after a name. -/
def colon (cs : List Utf8.Symbol) : Except Fault (List Utf8.Symbol) :=
  match skipSpace cs with
  | [] => .error (.ahead (.unfinished .object) [])
  | some ':' :: rest => .ok rest
  | left => .error (.ahead (.breach .expectedColon) left)

/-- What follows inside a list: nothing more (before the bracket), or an item. -/
inductive Next where
  | done (left : List Utf8.Symbol)
  | more (left : List Utf8.Symbol)

/-- Finds out whether another item follows. -/
def nextItem (first : Bool) (cs : List Utf8.Symbol) : Except Fault Next :=
  match skipSpace cs with
  | [] => .error (.ahead (.unfinished .list) [])
  | some ']' :: rest => .ok (.done (some ']' :: rest))
  | c :: rest =>
    if first then .ok (.more (c :: rest))
    else if c = some ',' then
      match skipSpace rest with
      | [] => .error (.ahead (.unfinished .value) [])
      | some ']' :: more => .error (.ahead (.breach .trailingComma) (some ']' :: more))
      | left => .ok (.more left)
    else .error (.ahead (.breach .expectedListCommaOrEnd) (c :: rest))

/-- Finds out whether another member follows. -/
def nextMember (first : Bool) (cs : List Utf8.Symbol) : Except Fault Next :=
  match skipSpace cs with
  | [] => .error (.ahead (.unfinished .object) [])
  | some '\x7d' :: rest => .ok (.done (some '\x7d' :: rest))
  | c :: rest =>
    if first then
      if c = some '"' then .ok (.more (c :: rest))
      else .error (.ahead (.breach .keyMustBeString) (c :: rest))
    else if c = some ',' then
      match skipSpace rest with
      | [] => .error (.ahead (.unfinished .value) [])
      | some '"' :: more => .ok (.more (some '"' :: more))
      | some '\x7d' :: more => .error (.ahead (.breach .trailingComma) (some '\x7d' :: more))
      | left => .error (.ahead (.breach .keyMustBeString) left)
    else .error (.ahead (.breach .expectedObjectCommaOrEnd) (c :: rest))

/-- Ends a list. The second part is what was read in the attempt. -/
def endList (cs : List Utf8.Symbol) : Option Fault × List Utf8.Symbol :=
  match skipSpace cs with
  | [] => (some (.ahead (.unfinished .list) []), [])
  | some ']' :: rest => (none, rest)
  | some ',' :: rest =>
    match skipSpace rest with
    | some ']' :: more =>
      (some (.ahead (.breach .trailingComma) (some ']' :: more)), some ']' :: more)
    | left => (some (.ahead (.breach .trailingCharacters) left), left)
  | left => (some (.ahead (.breach .trailingCharacters) left), left)

/-- Ends an object. The second part is what was read in the attempt. -/
def endObject (cs : List Utf8.Symbol) : Option Fault × List Utf8.Symbol :=
  match skipSpace cs with
  | [] => (some (.ahead (.unfinished .object) []), [])
  | some '\x7d' :: rest => (none, rest)
  | some ',' :: rest =>
    (some (.ahead (.breach .trailingComma) (some ',' :: rest)), some ',' :: rest)
  | left => (some (.ahead (.breach .trailingCharacters) left), left)

/-- The outcome of a container: its contents decide, then its end. A fault in the contents that has
no place yet takes the one where the attempt to end the container stopped. -/
def close {α : Type} (finish : List Utf8.Symbol → Option Fault × List Utf8.Symbol)
    (contents : Except Fault (α × List Utf8.Symbol)) : Except Fault (α × List Utf8.Symbol) :=
  match contents with
  | .error f => .error (f.settle (finish f.left).2)
  | .ok (value, left) =>
    match finish left with
    | (none, rest) => .ok (value, rest)
    | (some f, _) => .error f

end Json

end Courier
