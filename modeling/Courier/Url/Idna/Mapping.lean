import Courier.Url.Idna.MappingData
import Courier.Url.Idna.Table

/-!
# The mapping of international names

Before a name is looked at, its characters are mapped: to lower case, to their plain form, or to
nothing. Some characters no name may have.
-/

namespace Courier.Url.Idna

/-- The table of runs of mapped characters. -/
def runTable : List (List Nat) :=
  wordsOf mappedRuns

/-- The table of single mapped characters. -/
def textTable : List (List Nat) :=
  wordsOf mappedTexts

/-- The table of excluded characters. -/
def excludedTable : List (List Nat) :=
  wordsOf excludedRanges

/-- The target of a code point in a run. -/
def targetInRun (n : Nat) : List Nat → Option Nat
  | [first, count, distance, step, target] =>
    let k := (n - first) / distance
    if first ≤ n ∧ (n - first) % distance = 0 ∧ k < count then some (target + k * step) else none
  | _ => none

/-- What a code point beyond ASCII is mapped to, if it is mapped. -/
def mapped? (n : Nat) : Option (List Nat) :=
  match runTable.findSome? (targetInRun n) with
  | some target => some [target]
  | none => (textTable.find? (·.head? = some n)).map (·.drop 1)

/-- The characters that a character is mapped to. -/
def mapChar (c : Char) : List Char :=
  if c.toNat < 0x80 then [c.toLower]
  else
    match mapped? c.toNat with
    | some targets => targets.map Char.ofNat
    | none => [c]

/-- Whether a character may stand in a name after the mapping. -/
def isStable (c : Char) : Bool :=
  if c.toNat < 0x80 then !c.isUpper
  else !inRanges excludedTable c.toNat && (mapped? c.toNat).isNone

end Courier.Url.Idna
