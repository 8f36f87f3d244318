import Courier.Url.Idna.Label
import Courier.Url.Idna.Punycode

/-!
# International names

A name is mapped and composed, and each label checked. Labels beyond ASCII are written in Punycode
after a mark; labels that come with the mark are decoded and checked as well.
-/

namespace Courier.Url.Idna

/-- The mark of labels in Punycode. -/
def aceMark : List Char := ['x', 'n', '-', '-']

/-- Whether all characters are ASCII. -/
def isAscii (cs : List Char) : Bool :=
  cs.all (·.toNat < 0x80)

/-- The characters that a label stands for, if it is sound. A marked label has to be in composed
form and to need its mark. -/
def readLabel (label : List Char) : Option (List Char) :=
  if aceMark.isPrefixOf label then
    match Punycode.decode (label.drop aceMark.length) with
    | none => none
    | some decoded =>
      if isAscii decoded || !isSound decoded || normalize decoded ≠ decoded then none
      else some decoded
  else if isSound label then some label
  else none

/-- A label in ASCII. -/
def writeLabel (label : List Char) : List Char :=
  if isAscii label then label else aceMark ++ Punycode.encode label

/-- The ASCII form of a name, if all of its labels are sound. -/
def toAscii (name : List Char) : Option (List Char) :=
  if isAscii name && !(splitAll (· = '.') (name.map Char.toLower)).any aceMark.isPrefixOf then
    some (name.map Char.toLower)
  else
    match (splitAll (· = '.') (normalize (name.flatMap mapChar))).mapM readLabel with
    | none => none
    | some labels =>
      if labels.any hasRightToLeft && !labels.all keepsDirection then none
      else some ((labels.map writeLabel).intersperse ['.'] |>.flatten)

end Courier.Url.Idna
