/-!
# Blank characters
-/

namespace Integrity.Text

/-- Whether a character is white space: the blanks and line ends of Unicode. -/
def isBlank (c : Char) : Bool :=
  let n := c.toNat
  (9 ≤ n && n ≤ 13) || n == 0x20 || n == 0x85 || n == 0xA0 || n == 0x1680
    || (0x2000 ≤ n && n ≤ 0x200A) || n == 0x2028 || n == 0x2029 || n == 0x202F || n == 0x205F
    || n == 0x3000

/-- The text without the blanks at its front. -/
def trimLeft (text : List Char) : List Char :=
  text.dropWhile isBlank

/-- The text without the blanks at its front and at its end. -/
def trim (text : List Char) : List Char :=
  (trimLeft (trimLeft text).reverse).reverse

end Integrity.Text
