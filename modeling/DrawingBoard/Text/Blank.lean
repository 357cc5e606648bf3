/-
Blanks: the characters that separate words.
-/

namespace DrawingBoard.Text

/-- Is the character white space?  These are the 25 characters with the property White_Space
of the Unicode standard. -/
def isBlank (c : Char) : Bool :=
  let n := c.toNat
  (0x9 ≤ n && n ≤ 0xd) || n == 0x20 || n == 0x85 || n == 0xa0 || n == 0x1680 ||
    (0x2000 ≤ n && n ≤ 0x200a) || n == 0x2028 || n == 0x2029 || n == 0x202f ||
    n == 0x205f || n == 0x3000

end DrawingBoard.Text
