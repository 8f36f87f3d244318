/-!
# Blank text

The characters with the Unicode property `White_Space`, and text that holds nothing else. A reply
body of this kind counts as empty.
-/

namespace Courier.Text

/-- The characters with the property `White_Space`. -/
def isBlankChar (c : Char) : Bool :=
  let n := c.toNat
  (0x9 ≤ n && n ≤ 0xD) || n == 0x20 || n == 0x85 || n == 0xA0 || n == 0x1680 ||
    (0x2000 ≤ n && n ≤ 0x200A) || n == 0x2028 || n == 0x2029 || n == 0x202F ||
    n == 0x205F || n == 0x3000

/-- Text of white space only; the empty text is one. -/
def isBlank (s : String) : Bool :=
  s.toList.all isBlankChar

end Courier.Text
