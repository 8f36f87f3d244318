import Courier.Number.Reading
import Courier.Text.Percent
import Courier.Url.Ipv4

/-!
# Tables of characters

Tables are texts of words, and a word is a list of hexadecimal numbers with dots between them.
-/

namespace Courier.Url.Idna

/-- The number that hexadecimal digits name. -/
def hexNumber (cs : List Char) : Nat :=
  cs.foldl (fun n c => n * 16 + (Percent.hexValue c).getD 0) 0

/-- The words of a table. -/
def wordsOf (text : String) : List (List Nat) :=
  (splitAll (fun c => c = ' ' || c = '\n') text.toList).map fun word =>
    (splitAll (· = '.') word).map hexNumber

/-- Whether one of the ranges of a table holds a code point. -/
def inRanges (table : List (List Nat)) (n : Nat) : Bool :=
  table.any fun
    | low :: high :: _ => low ≤ n && n ≤ high
    | _ => false

/-- The class that the ranges of a table give to a code point, or zero. -/
def classIn (table : List (List Nat)) (n : Nat) : Nat :=
  (table.findSome? fun
    | [low, high, kind] => if low ≤ n ∧ n ≤ high then some kind else none
    | _ => none).getD 0

end Courier.Url.Idna
