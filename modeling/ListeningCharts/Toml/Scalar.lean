import ListeningCharts.Binary64.Basic
import ListeningCharts.Toml.Value

/-! # TOML scalars without quotes

Booleans, numbers, dates and times. A number or a date is only checked: its digits, its form, and that
it is in range.
-/

namespace ListeningCharts.Toml

/-! ## Numbers -/

/-- Whether the character is a hexadecimal digit. -/
def isHexDigit (c : Char) : Bool :=
  c.isDigit || ('a' ≤ c && c ≤ 'f') || ('A' ≤ c && c ≤ 'F')

/-- The digits of a run of digits with single underscores between them. -/
def ungroup? (isDigit : Char → Bool) (t : Text) : Option Text :=
  let groups := t.splitOn '_'
  if groups.all fun g => !g.isEmpty && g.all isDigit then some groups.flatten else none

/-- The digits of a decimal number without superfluous leading zeros. -/
def decimal? (t : Text) : Option Text :=
  match ungroup? Char.isDigit t with
  | some ('0' :: _ :: _) => none
  | digits => digits

/-- A text without its sign, and whether it had a minus sign. -/
def unsigned (t : Text) : Bool × Text :=
  match t with
  | '+' :: rest => (false, rest)
  | '-' :: rest => (true, rest)
  | _ => (false, t)

/-- Whether a whole number is one that some integer type can hold. -/
def isHoldable (negative : Bool) (n : Nat) : Bool :=
  if negative then n ≤ Nat.pow 2 127 else n < Nat.pow 2 128

/-- The number that digits write in a base. -/
def inBase (base : Nat) (digits : Text) : Nat :=
  digits.foldl (fun n c =>
    let d := if c.isDigit then c.toNat - '0'.toNat else c.toLower.toNat - 'a'.toNat + 10
    n * base + d) 0

/-- Whether the text is a whole number. -/
def isInteger (t : Text) : Bool :=
  let (negative, body) := unsigned t
  match t, body with
  | '0' :: 'x' :: _, _ :: _ :: digits => holds 16 isHexDigit digits
  | '0' :: 'o' :: _, _ :: _ :: digits => holds 8 (fun c => '0' ≤ c && c ≤ '7') digits
  | '0' :: 'b' :: _, _ :: _ :: digits => holds 2 (fun c => c == '0' || c == '1') digits
  | _, digits =>
    match decimal? digits with
    | some digits => isHoldable negative (inBase 10 digits)
    | none => false
where
  /-- Whether the digits, in a base, make a number that can be held. -/
  holds (base : Nat) (isDigit : Char → Bool) (digits : Text) : Bool :=
    match ungroup? isDigit digits with
    | some digits => isHoldable false (inBase base digits)
    | none => false

/-- What stands before and after the first character with a property. -/
def splitAtFirst (p : Char → Bool) (t : Text) : Text × Option Text :=
  match t.dropWhile fun c => !p c with
  | [] => (t, none)
  | _ :: after => (t.takeWhile fun c => !p c, some after)

/-- Whether the text is a number in floating point, and not too great a one. -/
def isFloat (t : Text) : Bool :=
  let (_, body) := unsigned t
  if body = ("inf" : Text) ∨ body = ("nan" : Text) then true
  else
    let (mantissa, exponent) := splitAtFirst (fun c => c == 'e' || c == 'E') body
    let (whole, fraction) := splitAtFirst (· == '.') mantissa
    let exponentDigits : Option (Bool × Text) :=
      match exponent with
      | none => some (false, ['0'])
      | some e => (ungroup? Char.isDigit (unsigned e).2).map fun d => ((unsigned e).1, d)
    let fractionDigits : Option Text :=
      match fraction with
      | none => some []
      | some f => ungroup? Char.isDigit f
    match decimal? whole, fractionDigits, exponentDigits with
    | some w, some f, some (negative, e) =>
      (fraction.isSome || exponent.isSome) && isInRange (inBase 10 (w ++ f)) f.length negative e
    | _, _, _ => false
where
  /-- Whether `digits * 10 ^ (±exponent - places)` is within the range of the format. -/
  isInRange (digits places : Nat) (negative : Bool) (exponent : Text) : Bool :=
    let e := inBase 10 exponent
    if digits = 0 || negative then true
    else if places + 400 < e then false
    else (Binary64.ofRatio (digits * Nat.pow 10 e) (Nat.pow 10 places)).isSome

/-! ## Dates and times -/

/-- The number that a run of exactly `width` digits writes, and what follows it. -/
def fixed? (width : Nat) (t : Text) : Option (Nat × Text) :=
  let digits := t.take width
  if digits.length = width && digits.all Char.isDigit then some (inBase 10 digits, t.drop width)
  else none

/-- What follows a character that must stand first. -/
def after? (c : Char) (t : Text) : Option Text :=
  match t with
  | d :: rest => if c = d then some rest else none
  | [] => none

/-- The number of days in a month. -/
def daysInMonth (year month : Nat) : Nat :=
  if month = 2 then if year % 4 = 0 ∧ (year % 100 ≠ 0 ∨ year % 400 = 0) then 29 else 28
  else if month = 4 ∨ month = 6 ∨ month = 9 ∨ month = 11 then 30
  else 31

/-- What follows a date. -/
def afterDate? (t : Text) : Option Text := do
  let (year, t) ← fixed? 4 t
  let (month, t) ← fixed? 2 (← after? '-' t)
  let (day, t) ← fixed? 2 (← after? '-' t)
  if 1 ≤ month ∧ month ≤ 12 ∧ 1 ≤ day ∧ day ≤ daysInMonth year month then some t else none

/-- What follows a time of day. Seconds, with a fraction, may be left out. -/
def afterTime? (t : Text) : Option Text := do
  let (hour, t) ← fixed? 2 t
  let (minute, t) ← fixed? 2 (← after? ':' t)
  if 23 < hour ∨ 59 < minute then none
  else
    match after? ':' t with
    | none => some t
    | some t =>
      let (second, t) ← fixed? 2 t
      if 60 < second then none
      else
        match after? '.' t with
        | none => some t
        | some t => if (t.takeWhile Char.isDigit).isEmpty then none else some (t.dropWhile Char.isDigit)

/-- Whether the text is an offset from universal time. -/
def isOffset (t : Text) : Bool :=
  match t with
  | ['Z'] | ['z'] => true
  | sign :: rest =>
    match fixed? 2 rest with
    | some (hour, ':' :: rest) =>
      match fixed? 2 rest with
      | some (minute, []) =>
        (sign == '+' || sign == '-') && decide (hour ≤ 23) && decide (minute ≤ 59)
      | _ => false
    | _ => false
  | [] => false

/-- Whether the text is a date, a time, or both. -/
def isDate (t : Text) : Bool :=
  match afterTime? t with
  | some [] => true
  | _ =>
    match afterDate? t with
    | some [] => true
    | some (c :: rest) =>
      (c == 'T' || c == 't' || c == ' ') &&
        match afterTime? rest with
        | some [] => true
        | some offset => isOffset offset
        | none => false
    | none => false

/-! ## Scalars -/

/-- The value of a scalar without quotes. -/
def scalar? (t : Text) : Option Value :=
  if t = ("true" : Text) then some (.boolean true)
  else if t = ("false" : Text) then some (.boolean false)
  else if isInteger t || isFloat t then some .number
  else if isDate t then some .date
  else none

end ListeningCharts.Toml
