import Courier.Url.Idna.Mapping
import Courier.Url.Idna.Normal

/-!
# Checks on labels

A label of a name does not start with a mark, and has joiners only where scripts need them. In a
name with right-to-left letters every label keeps to one direction.
-/

namespace Courier.Url.Idna

/-- The table of marks. -/
def markTable : List (List Nat) :=
  wordsOf markRanges

/-- The table of directions. -/
def directionTable : List (List Nat) :=
  wordsOf directionRanges

/-- The table of joining types. -/
def joiningTable : List (List Nat) :=
  wordsOf joiningRanges

/-- The directions of characters that matter in labels. -/
inductive Direction where
  | leftToRight
  | rightToLeft
  | arabicNumber
  | europeanNumber
  | neutral
  | mark
  | excluded
deriving DecidableEq, Repr

/-- The direction of a character. -/
def directionOf (c : Char) : Direction :=
  if c.toNat < 0x80 then
    if c.isAlpha then .leftToRight else if c.isDigit then .europeanNumber else .neutral
  else
    match classIn directionTable c.toNat with
    | 0 => .leftToRight
    | 1 => .rightToLeft
    | 2 => .arabicNumber
    | 3 => .europeanNumber
    | 4 => .neutral
    | 5 => .mark
    | _ => .excluded

/-- Whether a text has a direction from right to left somewhere. -/
def hasRightToLeft (cs : List Char) : Bool :=
  cs.any fun c => directionOf c = .rightToLeft || directionOf c = .arabicNumber

/-- The last direction that is not that of a mark. -/
def lastDirection? (ds : List Direction) : Option Direction :=
  (ds.reverse.dropWhile (· = .mark)).head?

/-- Whether directions keep to right-to-left. -/
def keepsRightToLeft (ds : List Direction) : Bool :=
  ds.all (fun d => d ≠ .leftToRight && d ≠ .excluded) &&
    (match lastDirection? ds with
      | some .rightToLeft | some .arabicNumber | some .europeanNumber => true
      | _ => false) &&
    !(ds.contains .arabicNumber && ds.contains .europeanNumber)

/-- Whether directions keep to left-to-right. -/
def keepsLeftToRight (ds : List Direction) : Bool :=
  ds.all (fun d => d ≠ .rightToLeft && d ≠ .arabicNumber && d ≠ .excluded) &&
    match lastDirection? ds with
    | some .leftToRight | some .europeanNumber => true
    | _ => false

/-- Whether a label keeps to the direction that it starts with. -/
def keepsDirection (label : List Char) : Bool :=
  let ds := label.map directionOf
  match ds.head? with
  | none => true
  | some .rightToLeft => keepsRightToLeft ds
  | some .leftToRight => keepsLeftToRight ds
  | _ => false

/-- The joining type of a character. -/
def joiningOf (c : Char) : Nat :=
  classIn joiningTable c.toNat

/-- The combining class of signs that join consonants. -/
def viramaClass : Nat := 9

/-- Whether a joiner may stand between characters: after a sign that joins consonants, or, for the
one that keeps letters apart, between letters that would join. `before` is given last first. -/
def mayJoin (joiner : Char) (before after : List Char) : Bool :=
  let next (cs : List Char) : Nat :=
    ((cs.dropWhile fun c => joiningOf c = 1).head?.map joiningOf).getD 0
  (before.head?.map fun c => combiningClass c.toNat) = some viramaClass ||
    (joiner.toNat = 0x200C && (next before = 2 || next before = 3) &&
      (next after = 2 || next after = 4))

/-- Whether all joiners of a label stand where they may; `before` is given last first. -/
def joinersFit : List Char → List Char → Bool
  | _, [] => true
  | before, c :: rest =>
    (if c.toNat = 0x200C ∨ c.toNat = 0x200D then mayJoin c before rest else true) &&
      joinersFit (c :: before) rest

/-- Whether a label may stand in a name, its direction aside. -/
def isSound (label : List Char) : Bool :=
  label.all isStable && joinersFit [] label &&
    !((label.head?.map fun c => inRanges markTable c.toNat).getD false)

end Courier.Url.Idna
