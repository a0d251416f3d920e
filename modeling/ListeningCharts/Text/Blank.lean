import ListeningCharts.Text.Basic

/-! # Blank characters

The characters with the Unicode property White_Space, and texts without them at either end.
-/

namespace ListeningCharts.Text

/-- Whether the character has the Unicode property White_Space. -/
def isBlank (c : Char) : Bool :=
  let n := c.toNat
  (0x09 ≤ n && n ≤ 0x0d) || n == 0x20 || n == 0x85 || n == 0xa0 || n == 0x1680
    || (0x2000 ≤ n && n ≤ 0x200a) || n == 0x2028 || n == 0x2029 || n == 0x202f || n == 0x205f
    || n == 0x3000

/-- The text from its first to its last character that is not blank. -/
def trim (t : Text) : Text := ((t.dropWhile isBlank).reverse.dropWhile isBlank).reverse

/-- Whether every character is blank. -/
def allBlank (t : Text) : Bool := t.all isBlank

end ListeningCharts.Text
