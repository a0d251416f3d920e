import ListeningCharts.Text.Percent

/-! # Form encoding

The pairs of a query, as a form sends them: names and values are written byte by byte, a space as
`+`, letters, digits and `*-._` as they are, and every other byte as `%` and two hexadecimal
digits. Pairs are joined by `&`, the two halves of a pair by `=`.
-/

namespace ListeningCharts.Text

/-- Whether a form writes the byte as it is. -/
def isFormSafe (b : UInt8) : Bool :=
  let c := Char.ofNat b.toNat
  c.isAlphanum || c == '*' || c == '-' || c == '.' || c == '_'

/-- A byte as a form writes it. -/
def formByte (b : UInt8) : Text :=
  if b = 0x20 then ['+'] else if isFormSafe b then [Char.ofNat b.toNat] else percentByte b

/-- A name or value as a form writes it. -/
def formEncode (t : Text) : Text := (Utf8.encode t).flatMap formByte

/-- The pairs as a form writes them. -/
def formPairs (pairs : List (Text × Text)) : Text :=
  ['&'].intercalate (pairs.map fun (name, value) => formEncode name ++ "=" ++ formEncode value)

end ListeningCharts.Text
