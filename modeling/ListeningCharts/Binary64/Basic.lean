/-! # Binary64

The values of the floating-point format with 53 bits of precision, without their sign, as exact
fractions. Every operation rounds the exact result to the nearest value, a tie to the even one.
-/

namespace ListeningCharts

/-- The value `mantissa * 2 ^ exponent`. -/
structure Binary64 where
  mantissa : Nat
  exponent : Int
  deriving DecidableEq, Repr

namespace Binary64

def zero : Binary64 := ⟨0, -1074⟩

/-- Whether the value is zero. -/
def isZero (x : Binary64) : Bool := x.mantissa == 0

/-- The numerator of the value, over `denominator`. -/
def numerator (x : Binary64) : Nat := x.mantissa * Nat.pow 2 x.exponent.toNat

/-- The denominator of the value, a power of two. -/
def denominator (x : Binary64) : Nat := Nat.pow 2 (- x.exponent).toNat

/-- The quotient rounded to the nearest whole number, a tie to the even one. -/
def roundDiv (num den : Nat) : Nat :=
  let q := num / den
  let r := num % den
  if den < 2 * r ∨ (2 * r = den ∧ q % 2 = 1) then q + 1 else q

/-- The value nearest to `num / den`; none beyond the greatest one. -/
def ofRatio (num den : Nat) : Option Binary64 :=
  if num = 0 then some zero
  else
    let scaled (e : Int) : Nat × Nat := (num * Nat.pow 2 (-e).toNat, den * Nat.pow 2 e.toNat)
    let guess := max ((num.log2 : Int) - den.log2 - 53) (-1074)
    let (n, d) := scaled guess
    let e := if n / d < Nat.pow 2 53 then guess else guess + 1
    let (n, d) := scaled e
    let q := roundDiv n d
    let (m, e) := if q = Nat.pow 2 53 then (Nat.pow 2 52, e + 1) else (q, e)
    if 971 < e then none else some ⟨m, e⟩

/-- The product; none beyond the greatest value. -/
def mul (x y : Binary64) : Option Binary64 :=
  ofRatio (x.numerator * y.numerator) (x.denominator * y.denominator)

/-- The quotient; none beyond the greatest value. -/
def div (x y : Binary64) : Option Binary64 :=
  ofRatio (x.numerator * y.denominator) (x.denominator * y.numerator)

/-- The value nearest to a whole number below `2 ^ 64`. -/
def ofNat (n : Nat) : Binary64 := (ofRatio n 1).getD zero

/-- The value nearest to a power of ten, up to the greatest one that is in range. -/
def powerOfTen (k : Nat) : Binary64 := ofNat (Nat.pow 10 (min k 308))

/-- The value divided by a power of ten, in steps of at most 308 places. Two full steps bring every
whole number below `2 ^ 64` to zero, so three steps are enough. -/
def scaleDown : Nat → Binary64 → Nat → Binary64
  | 0, _, _ => zero
  | steps + 1, x, k =>
    if k ≤ 308 then (x.div (powerOfTen k)).getD zero
    else if x.isZero then x
    else scaleDown steps ((x.div (powerOfTen 308)).getD zero) (k - 308)

/-- The value that a number reads as which is written `significand * 10 ^ exponent`: the significand
is rounded first, then scaled by the power of ten. None beyond the greatest value. -/
def ofDecimal (significand : Nat) (exponent : Int) : Option Binary64 :=
  let x := ofNat significand
  match exponent with
  | .ofNat k => if k ≤ 308 then x.mul (powerOfTen k) else if x.isZero then some x else none
  | .negSucc k => some (scaleDown 3 x (k + 1))

end Binary64

end ListeningCharts
