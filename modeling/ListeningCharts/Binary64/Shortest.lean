import ListeningCharts.Binary64.Basic
import ListeningCharts.Text.Basic

/-! # Shortest decimal form

The decimal number with the fewest digits that rounds to a given value, and of those the nearest.
-/

namespace ListeningCharts.Binary64

/-- A positive fraction, to compare with. -/
structure Ratio where
  num : Nat
  den : Nat

namespace Ratio

def le (x y : Ratio) : Bool := x.num * y.den ≤ y.num * x.den

def lt (x y : Ratio) : Bool := x.num * y.den < y.num * x.den

/-- The fraction times a power of two. -/
def shift (x : Ratio) (e : Int) : Ratio :=
  ⟨x.num * Nat.pow 2 e.toNat, x.den * Nat.pow 2 (-e).toNat⟩

/-- The fraction times a power of ten. -/
def shiftTen (x : Ratio) (e : Int) : Ratio :=
  ⟨x.num * Nat.pow 10 e.toNat, x.den * Nat.pow 10 (-e).toNat⟩

/-- The exponent of the greatest power of ten that is not above the fraction. -/
def decimalExponent (x : Ratio) : Int :=
  if x.den ≤ x.num then (Nat.toDigits 10 (x.num / x.den)).length - 1
  else
    let n := (Nat.toDigits 10 (x.den / x.num)).length
    if x.den ≤ x.num * Nat.pow 10 (n - 1) then 1 - (n : Int) else - (n : Int)

end Ratio

/-- Whether a fraction rounds to the value: it lies between the midpoints to the two neighbours, or
on one of them if the mantissa is even. -/
def roundsFrom (x : Binary64) (r : Ratio) : Bool :=
  let m := x.mantissa
  let low : Ratio :=
    if m = Nat.pow 2 52 ∧ -1074 < x.exponent then (Ratio.mk (4 * m - 1) 4).shift x.exponent
    else (Ratio.mk (2 * m - 1) 2).shift x.exponent
  let high : Ratio := (Ratio.mk (2 * m + 1) 2).shift x.exponent
  if m % 2 = 0 then low.le r && r.le high else low.lt r && r.lt high

/-- Of the two numbers with `count` digits next to a positive value, the nearer one that rounds to
it, as digits and the exponent of their last place. -/
def neighbour? (x : Binary64) (top : Int) (count : Nat) : Option (Nat × Int) :=
  let place := top - count + 1
  let v := (Ratio.mk x.numerator x.denominator).shiftTen (-place)
  let below := v.num / v.den
  let isShort (d : Nat) : Bool := x.roundsFrom ((Ratio.mk d 1).shiftTen place)
  let nearer := roundDiv v.num v.den
  let farther := if nearer = below then below + 1 else below
  if isShort nearer then some (nearer, place)
  else if isShort farther then some (farther, place)
  else none

/-- Removes zeros at the end of the digits. -/
def stripZeros : Nat → Nat → Int → Nat × Int
  | 0, d, place => (d, place)
  | limit + 1, d, place =>
    if d % 10 = 0 then stripZeros limit (d / 10) (place + 1) else (d, place)

/-- The digits of the shortest decimal form of a positive value, and the exponent of the last one.
Seventeen digits always suffice. -/
def shortest (x : Binary64) : Nat × Int :=
  let top := (Ratio.mk x.numerator x.denominator).decimalExponent
  let found := (List.range 17).findSome? fun i => x.neighbour? top (i + 1)
  let (d, place) := found.getD (x.numerator / x.denominator, 0)
  stripZeros 17 d place

/-- The value in decimal: positional, with one digit at least on either side of the point, where the
exponent of the first digit is from -5 to 15, and otherwise with an exponent that has a sign. -/
def format (x : Binary64) : Text :=
  if x.isZero then "0.0"
  else
    let (d, place) := x.shortest
    let digits := Text.ofNat d
    let top := place + digits.length - 1
    if 0 ≤ top ∧ top ≤ 15 then
      let whole := top.toNat + 1
      let fraction := digits.drop whole
      digits.take whole ++ List.replicate (whole - digits.length) '0' ++ "."
        ++ (if fraction.isEmpty then ['0'] else fraction)
    else if -5 ≤ top ∧ top < 0 then
      "0." ++ List.replicate (top.natAbs - 1) '0' ++ digits
    else
      let fraction := digits.drop 1
      digits.take 1 ++ (if fraction.isEmpty then [] else '.' :: fraction) ++ "e"
        ++ [if top < 0 then '-' else '+'] ++ Text.ofNat top.natAbs

end ListeningCharts.Binary64
