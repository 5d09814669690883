/-!
# Blanks around a number

A number may be written with blanks before and after it. In ASCII these are the space and the five
characters from tab to carriage return; beyond it, every character with the white space property.
-/

namespace SpriteStage.Text

/-- Whether a character may stand around a number. -/
def isBlank (c : Char) : Bool :=
  let n := c.toNat
  n == 0x20 || (0x09 ≤ n && n ≤ 0x0d) || n == 0x85 || n == 0xa0 || n == 0x1680 ||
    (0x2000 ≤ n && n ≤ 0x200a) || n == 0x2028 || n == 0x2029 || n == 0x202f || n == 0x205f ||
    n == 0x3000

/-- The text without the blanks at its two ends. -/
def trimBlanks (cs : List Char) : List Char :=
  ((cs.dropWhile isBlank).reverse.dropWhile isBlank).reverse

end SpriteStage.Text
