import ListeningCharts.Text.Basic

/-! # Integers written in decimal

A decimal integer is a run of ASCII digits, at least one, with a sign in front where the type has
one. A value outside the bounds of the type is refused, never wrapped.
-/

namespace ListeningCharts

/-- The bounds of an integer type, both included. -/
structure IntRange where
  low : Int
  high : Int
  deriving DecidableEq, Repr

namespace IntRange

/-- Whole numbers of 64 bits without a sign. -/
def unsigned64 : IntRange := ⟨0, 18446744073709551615⟩

/-- Whole numbers of 64 bits with a sign. -/
def signed64 : IntRange := ⟨-9223372036854775808, 9223372036854775807⟩

/-- Whether the value is within the bounds. -/
def contains (r : IntRange) (n : Int) : Bool := decide (r.low ≤ n) && decide (n ≤ r.high)

/-- The value, if it is within the bounds. -/
def check? (r : IntRange) (n : Int) : Option Int := if r.contains n then some n else none

end IntRange

namespace Text

/-- The number that a run of one or more ASCII digits writes. -/
def digits? (t : Text) : Option Nat :=
  if !t.isEmpty && t.all Char.isDigit then some (Nat.ofDigitChars 10 t 0) else none

/-- The number that digits write, with `+` in front or, in a type with negative numbers, `-`. -/
def integer? (range : IntRange) (t : Text) : Option Int :=
  let value : Option Int :=
    match t with
    | '+' :: rest => (digits? rest).map Int.ofNat
    | '-' :: rest => if range.low < 0 then (digits? rest).map fun n => - Int.ofNat n else none
    | _ => (digits? t).map Int.ofNat
  value.bind range.check?

/-- Digits written out are read back. -/
theorem digits?_ofNat (n : Nat) : digits? (ofNat n) = some n := by
  have hne : ofNat n ≠ [] := Nat.toDigits_ne_nil
  have hall : (ofNat n).all Char.isDigit = true := by
    simp only [List.all_eq_true]
    exact fun c hc => Nat.isDigit_of_mem_toDigits (by decide) (by decide) hc
  have hne' : (ofNat n).isEmpty = false := by simpa using hne
  simp only [digits?, hne', hall, Bool.not_false, Bool.and_self, if_true]
  exact congrArg some (Nat.ofDigitChars_toDigits (by decide) (by decide))

theorem ofNat_injective : ofNat.Injective := by
  intro n m h
  have hread := digits?_ofNat n
  rw [h, digits?_ofNat] at hread
  exact (Option.some.inj hread).symm

end Text

end ListeningCharts
