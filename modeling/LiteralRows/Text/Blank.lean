import LiteralRows.Text.Pieces

/-!
# Blank characters

The characters with the Unicode property White_Space, and the trimming of both ends of a text.
A zero-width space, a byte-order mark and the separators of the C0 range are not blank.
-/

namespace LiteralRows.Text

/-- The character has the Unicode property White_Space. -/
def isBlank (c : Char) : Bool :=
  let n := c.toNat
  (0x09 ≤ n && n ≤ 0x0D) || n == 0x20 || n == 0x85 || n == 0xA0 || n == 0x1680 ||
    (0x2000 ≤ n && n ≤ 0x200A) || n == 0x2028 || n == 0x2029 || n == 0x202F || n == 0x205F ||
    n == 0x3000

/-- A text without the blanks at its two ends. -/
def trim (s : List Char) : List Char :=
  ((s.dropWhile isBlank).reverse.dropWhile isBlank).reverse

/-- The text holds nothing but blanks. -/
def isAllBlank (s : List Char) : Bool :=
  s.all isBlank

end LiteralRows.Text
