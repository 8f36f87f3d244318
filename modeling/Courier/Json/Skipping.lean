import Courier.Json.Literal

/-!
# Skipping a value

A value that nobody asked for is passed over. Its grammar is checked, but not its depth, the size of
its numbers, or the pairing of its surrogates.
-/

namespace Courier.Json

/-- Passes over an exponent after its mark. -/
def skipExponent (cs : List Utf8.Symbol) : Except Fault (List Utf8.Symbol) :=
  let cs := match cs with
    | some '+' :: rest | some '-' :: rest => rest
    | _ => cs
  match cs with
  | c :: rest =>
    if isDigitSymbol c then .ok (rest.dropWhile isDigitSymbol)
    else .error (.ahead (.breach .invalidNumber) cs)
  | [] => .error (.ahead (.breach .invalidNumber) [])

/-- Passes over what follows the whole part of a number. -/
def skipFraction (cs : List Utf8.Symbol) : Except Fault (List Utf8.Symbol) :=
  match cs with
  | some '.' :: rest =>
    let left := rest.dropWhile isDigitSymbol
    if left.length = rest.length then .error (.ahead (.breach .invalidNumber) left)
    else
      match left with
      | some 'e' :: more | some 'E' :: more => skipExponent more
      | _ => .ok left
  | some 'e' :: rest | some 'E' :: rest => skipExponent rest
  | _ => .ok cs

/-- Passes over a number after its sign. -/
def skipNumber (cs : List Utf8.Symbol) : Except Fault (List Utf8.Symbol) :=
  match cs with
  | some '0' :: rest =>
    match rest with
    | c :: _ =>
      if isDigitSymbol c then .error (.ahead (.breach .invalidNumber) rest) else skipFraction rest
    | [] => .ok []
  | c :: rest =>
    if isDigitSymbol c then skipFraction (rest.dropWhile isDigitSymbol)
    else .error (.ahead (.breach .invalidNumber) cs)
  | [] => .error (.ahead (.breach .invalidNumber) [])

/-- Passes over a string literal after its opening quote. -/
def skipLiteral : Nat → List Utf8.Symbol → Except Fault (List Utf8.Symbol)
  | 0, _ => .error unfinishedString
  | fuel + 1, cs =>
    match cs with
    | [] => .error unfinishedString
    | some '"' :: rest => .ok rest
    | some '\\' :: some 'u' :: rest =>
      match hexEscape rest with
      | .error f => .error f
      | .ok (_, left) => skipLiteral fuel left
    | some '\\' :: rest =>
      match escaped rest with
      | .error f => .error f
      | .ok (_, left) => skipLiteral fuel left
    | some c :: rest =>
      if c.toNat < 0x20 then .error (.here (.breach .controlCharacter) (some c :: rest))
      else skipLiteral fuel rest
    | none :: rest => skipLiteral fuel rest

/-- The containers that are open. -/
inductive Bracket where
  | list
  | object
deriving DecidableEq, Repr

/-- Where the skipping is: before a value, or inside a container, at its start or after a part. -/
inductive SkipState where
  | value
  | inside (afterPart : Bool)
deriving DecidableEq, Repr

/-- What is left after a scalar at the front, or the bracket that opens a container. -/
def skipScalar (cs : List Utf8.Symbol) : Except Fault (Option Bracket × List Utf8.Symbol) :=
  match cs with
  | [] => .error (.ahead (.unfinished .value) [])
  | some 'n' :: rest => (word nullTail rest).map (none, ·)
  | some 't' :: rest => (word trueTail rest).map (none, ·)
  | some 'f' :: rest => (word falseTail rest).map (none, ·)
  | some '-' :: rest => (skipNumber rest).map (none, ·)
  | some '"' :: rest => (skipLiteral (rest.length + 1) rest).map (none, ·)
  | some '[' :: rest => .ok (some .list, rest)
  | some '\x7b' :: rest => .ok (some .object, rest)
  | c :: rest =>
    if isDigitSymbol c then (skipNumber (c :: rest)).map (none, ·)
    else .error (.ahead (.breach .expectedValue) (c :: rest))

/-- Passes over the name of a member and its colon. -/
def skipName (cs : List Utf8.Symbol) : Except Fault (List Utf8.Symbol) :=
  match skipSpace cs with
  | [] => .error (.ahead (.unfinished .object) [])
  | some '"' :: rest =>
    match skipLiteral (rest.length + 1) rest with
    | .error f => .error f
    | .ok left => colon left
  | left => .error (.ahead (.breach .keyMustBeString) left)

/-- Goes on to the next part of the innermost open container. -/
def skipToPart (frame : Bracket) (cs : List Utf8.Symbol) : Except Fault (List Utf8.Symbol) :=
  match frame with
  | .list => .ok cs
  | .object => skipName cs

/-- Passes over what is left of a value, inside the containers `frames`, innermost first. -/
def skipFrom : Nat → SkipState → List Bracket → List Utf8.Symbol →
    Except Fault (List Utf8.Symbol)
  | 0, _, _, cs => .error (.ahead (.breach .expectedValue) cs)
  | fuel + 1, .value, frames, cs =>
    match skipScalar (skipSpace cs) with
    | .error f => .error f
    | .ok (some frame, left) => skipFrom fuel (.inside false) (frame :: frames) left
    | .ok (none, left) =>
      if frames.isEmpty then .ok left else skipFrom fuel (.inside true) frames left
  | _ + 1, .inside _, [], cs => .ok cs
  | fuel + 1, .inside afterPart, frame :: frames, cs =>
    match skipSpace cs with
    | [] => .error (.ahead (.unfinished (if frame = .list then .list else .object)) [])
    | c :: rest =>
      if c = some (if frame = .list then ']' else '\x7d') then
        skipFrom fuel (.inside true) frames rest
      else if afterPart = false ∨ c = some ',' then
        match skipToPart frame (if afterPart then rest else c :: rest) with
        | .error f => .error f
        | .ok left => skipFrom fuel .value (frame :: frames) left
      else
        .error (.ahead (.breach (if frame = .list then .expectedListCommaOrEnd
          else .expectedObjectCommaOrEnd)) (c :: rest))

/-- Passes over a value. At most two steps are taken for each symbol. -/
def skipValue (cs : List Utf8.Symbol) : Except Fault (List Utf8.Symbol) :=
  skipFrom (2 * cs.length + 2) .value [] cs

end Courier.Json
