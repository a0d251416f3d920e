import ListeningCharts.Text.Basic

/-! # Hexadecimal digits

Digits in bases up to sixteen, read in either letter case.

Main statement: a digit that is written is read back (`hexDigit?_upperHexDigit`).
-/

namespace ListeningCharts.Text

/-- The value of a hexadecimal digit. -/
def hexDigit? (c : Char) : Option Nat :=
  if c.isDigit then some (c.toNat - '0'.toNat)
  else if 'a' ≤ c ∧ c ≤ 'f' then some (c.toNat - 'a'.toNat + 10)
  else if 'A' ≤ c ∧ c ≤ 'F' then some (c.toNat - 'A'.toNat + 10)
  else none

/-- The number that one or more digits write in a base of at most sixteen. -/
def inBase? (base : Nat) (digits : Text) : Option Nat :=
  if digits.isEmpty then none
  else digits.foldlM (fun n c => ((hexDigit? c).filter (· < base)).map (n * base + ·)) 0

/-- The number that one or more hexadecimal digits write. -/
def hexValue? (digits : Text) : Option Nat := inBase? 16 digits

/-- The hexadecimal digits of a number, in lower case, without leading zeros. -/
def hex (n : Nat) : Text := Nat.toDigits 16 n

/-- The hexadecimal digit, in upper case, of a number below sixteen. -/
def upperHexDigit (n : Nat) : Char := (Nat.digitChar n).toUpper

theorem hexDigit?_upperHexDigit {n : Nat} (h : n < 16) : hexDigit? (upperHexDigit n) = some n := by
  have all : ∀ n : Fin 16, hexDigit? (upperHexDigit n) = some n.val := by decide
  exact all ⟨n, h⟩

end ListeningCharts.Text
