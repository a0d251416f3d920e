import ListeningCharts.Text.Hex
import ListeningCharts.Text.Utf8

/-! # Bytes behind a percent sign

A byte that may not stand as a character is written as `%` and two hexadecimal digits.

Main statement: a byte that is written is read back (`percentDecode_percentByte_append`).
-/

namespace ListeningCharts.Text

/-- A byte as `%` and two hexadecimal digits. -/
def percentByte (b : UInt8) : Text :=
  ['%', upperHexDigit (b.toNat / 16), upperHexDigit (b.toNat % 16)]

/-- A text with every control, every character outside ASCII and every character in `encoded`
written as bytes. -/
def percentEncode (encoded : Text) (t : Text) : Text :=
  t.flatMap fun c =>
    if c < ' ' ∨ '~' < c ∨ encoded.contains c then (Utf8.encodeChar c).flatMap percentByte else [c]

/-- The bytes of a text; `%` stands for itself unless two hexadecimal digits follow. -/
def percentDecode : Text → Bytes
  | '%' :: a :: b :: rest =>
    match hexDigit? a, hexDigit? b with
    | some high, some low => UInt8.ofNat (16 * high + low) :: percentDecode rest
    | _, _ => Utf8.encodeChar '%' ++ percentDecode (a :: b :: rest)
  | c :: rest => Utf8.encodeChar c ++ percentDecode rest
  | [] => []

theorem percentDecode_percentByte_append (b : UInt8) (t : Text) :
    percentDecode (percentByte b ++ t) = b :: percentDecode t := by
  have hb := b.toNat_lt
  have high := hexDigit?_upperHexDigit (n := b.toNat / 16) (by omega)
  have low := hexDigit?_upperHexDigit (n := b.toNat % 16) (by omega)
  have whole : 16 * (b.toNat / 16) + b.toNat % 16 = b.toNat := by omega
  simp [percentByte, percentDecode, high, low, whole]

end ListeningCharts.Text
