import ListeningCharts.Text.Hex

/-! # Sets of characters

A set of characters as ranges of code points, read from rows such as `41-5A 5F 61-7A`.
-/

namespace ListeningCharts

/-- The code points from `first` to `last`, both included. -/
structure CodeRange where
  first : Nat
  last : Nat
  deriving DecidableEq, Repr

namespace CodeRange

/-- Whether the code point of a character is in the range. -/
def contains (r : CodeRange) (c : Char) : Bool := r.first ≤ c.toNat && c.toNat ≤ r.last

/-- Reads `41-5A`, or `5F` for a single code point. -/
def read? (t : Text) : Option CodeRange :=
  match t.splitOn '-' with
  | [one] => (Text.hexValue? one).map fun n => ⟨n, n⟩
  | [first, last] => do return ⟨← Text.hexValue? first, ← Text.hexValue? last⟩
  | _ => none

end CodeRange

/-- A set of characters. -/
abbrev CodePoints := List CodeRange

namespace CodePoints

/-- The ranges that rows list, with a space between each two. -/
def ofRows (rows : List String) : CodePoints :=
  rows.flatMap fun row => (row.toList.splitOn ' ').filterMap CodeRange.read?

/-- Whether the character is in the set. -/
def contains (s : CodePoints) (c : Char) : Bool := s.any (CodeRange.contains · c)

example : contains (ofRows ["41-5A 5F", "61-7A"]) 'q' = true := by decide +kernel

end CodePoints

end ListeningCharts
