import ListeningCharts.Text.Hex
import ListeningCharts.Text.Unprintable

/-! # Quoted text

A text between double quotes, for a message: quotes, backslashes and control characters are escaped,
and a character without a shape of its own is written as its code point.
-/

namespace ListeningCharts.Text

/-- How one character stands between the quotes. -/
def quotedChar (c : Char) : Text :=
  match c with
  | '"' => "\\\""
  | '\\' => "\\\\"
  | '\x00' => "\\0"
  | '\t' => "\\t"
  | '\n' => "\\n"
  | '\r' => "\\r"
  | c => if isUnprintable c then "\\u\x7b" ++ hex c.toNat ++ "\x7d" else [c]

/-- The text between double quotes. -/
def quoted (t : Text) : Text := "\"" ++ t.flatMap quotedChar ++ "\""

end ListeningCharts.Text
