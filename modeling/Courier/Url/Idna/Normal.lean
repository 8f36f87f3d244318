import Courier.Url.Idna.ClassData
import Courier.Url.Idna.Table

/-!
# Composed form

Marks that follow a character are put in order of their combining class, and composed with it where
there is a composed character. Syllables of Hangul are composed by rule.
-/

namespace Courier.Url.Idna

/-- The table of composed characters. -/
def compositionTable : List (List Nat) :=
  wordsOf compositions

/-- The table of combining classes. -/
def combiningTable : List (List Nat) :=
  wordsOf combiningRanges

/-- The combining class of a code point; zero for all that are no marks. -/
def combiningClass (n : Nat) : Nat :=
  if n < 0x300 then 0 else classIn combiningTable n

/-- The first syllable of Hangul, and the first of each kind of its parts. -/
def firstSyllable : Nat := 0xAC00

@[inherit_doc firstSyllable]
def firstLead : Nat := 0x1100

@[inherit_doc firstSyllable]
def firstVowel : Nat := 0x1161

@[inherit_doc firstSyllable]
def firstTail : Nat := 0x11A7

/-- Whether a code point is a syllable of Hangul. -/
def isSyllable (n : Nat) : Bool :=
  firstSyllable ≤ n && n < firstSyllable + 19 * 21 * 28

/-- The two characters that a composed one is made of. -/
def halves? (n : Nat) : Option (Nat × Nat) :=
  if n < 0x80 then none
  else
    match compositionTable.find? (·.head? = some n) with
    | some [_, a, b] => some (a, b)
    | _ => none

/-- The parts of a syllable. -/
def syllableParts (n : Nat) : List Nat :=
  let k := n - firstSyllable
  [firstLead + k / 588, firstVowel + k % 588 / 28] ++
    if k % 28 = 0 then [] else [firstTail + k % 28]

/-- A code point taken apart. No character is made of more than four. -/
def decomposed : Nat → Nat → List Nat
  | 0, n => [n]
  | fuel + 1, n =>
    if isSyllable n then syllableParts n
    else
      match halves? n with
      | some (a, b) => decomposed fuel a ++ [b]
      | none => [n]

/-- Puts a mark into its place among marks that are in order. -/
def insertMark (n : Nat) : List Nat → List Nat
  | [] => [n]
  | m :: rest => if combiningClass n < combiningClass m then n :: m :: rest
    else m :: insertMark n rest

/-- Puts each run of marks in order. `marks` holds the run that has begun. -/
def reorder : List Nat → List Nat → List Nat
  | marks, [] => marks
  | marks, n :: rest =>
    if combiningClass n = 0 then marks ++ n :: reorder [] rest
    else reorder (insertMark n marks) rest

/-- The character that two compose to. -/
def composed? (a b : Nat) : Option Nat :=
  if firstLead ≤ a ∧ a < firstLead + 19 ∧ firstVowel ≤ b ∧ b < firstVowel + 21 then
    some (firstSyllable + ((a - firstLead) * 21 + (b - firstVowel)) * 28)
  else if isSyllable a ∧ (a - firstSyllable) % 28 = 0 ∧ firstTail < b ∧ b < firstTail + 28 then
    some (a + (b - firstTail))
  else
    (compositionTable.find? (·.drop 1 = [a, b])).bind List.head?

/-- Composes marks with the character before them: `between` holds those that stay, last first. A
mark is blocked by one of its class that stays. -/
def composeFrom (starter : Nat) (between : List Nat) : List Nat → List Nat
  | [] => starter :: between.reverse
  | n :: rest =>
    let blocked := match between with
      | [] => false
      | last :: _ => combiningClass n ≤ combiningClass last
    match if blocked then none else composed? starter n with
    | some c => composeFrom c between rest
    | none =>
      if combiningClass n = 0 then starter :: (between.reverse ++ composeFrom n [] rest)
      else composeFrom starter (n :: between) rest

/-- The composed form of some code points. -/
def composedForm (ns : List Nat) : List Nat :=
  match reorder [] (ns.flatMap (decomposed 4)) with
  | [] => []
  | n :: rest => composeFrom n [] rest

/-- The composed form of a text. -/
def normalize (cs : List Char) : List Char :=
  (composedForm (cs.map Char.toNat)).map Char.ofNat

end Courier.Url.Idna
