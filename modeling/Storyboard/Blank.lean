/-! # Blank text

The characters that count as white space in any language.
-/

namespace Storyboard

/-- Whether a character is white space. -/
def isBlank (c : Char) : Bool :=
  let n := c.toNat
  (0x9 ≤ n && n ≤ 0xd) || n == 0x20 || n == 0x85 || n == 0xa0 || n == 0x1680 ||
    (0x2000 ≤ n && n ≤ 0x200a) || n == 0x2028 || n == 0x2029 || n == 0x202f || n == 0x205f ||
    n == 0x3000

/-- Whether a text has nothing but white space. -/
def isBlankText (s : String) : Bool := s.toList.all isBlank

end Storyboard
