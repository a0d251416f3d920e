import ListeningCharts.Text.Basic

/-! # Labels in ASCII

A label with characters outside ASCII is written with letters, digits and hyphens only: first its
ASCII characters, in order, then a hyphen if there are any, then one number for each other
character, in the order of code points. A number says how many steps there are from the place and code point of
the character before to those of the next. Its digits have the least one first, and the size of the
digits that end a number adapts to the numbers before.

A number or a code point beyond 32 bits is refused.
-/

namespace ListeningCharts.DomainName.Punycode

/-! ## Numbers -/

/-- The base of the digits. -/
def base : Nat := 36

/-- The digit of a value below the base: a letter, then a figure. -/
def digitChar (n : Nat) : Char :=
  if n < 26 then Char.ofNat ('a'.toNat + n) else Char.ofNat ('0'.toNat + (n - 26))

/-- The value of a digit. -/
def digitValue? (c : Char) : Option Nat :=
  if c.isLower then some (c.toNat - 'a'.toNat)
  else if c.isDigit then some (c.toNat - '0'.toNat + 26)
  else none

/-- The least value of the digit at a place that is not the last digit of its number. -/
def threshold (bias place : Nat) : Nat := max 1 (min 26 (base * (place + 1) - bias))

/-- A step divided until it is small, with the places that this takes. -/
def scale (step places : Nat) : Nat × Nat :=
  if 455 < step then scale (step / 35) (places + base) else (step, places)
termination_by step
decreasing_by omega

/-- The bias after a number, for `count` characters so far. -/
def adapt (number count : Nat) (isFirst : Bool) : Nat :=
  let step := if isFirst then number / 700 else number / 2
  let (step, places) := scale (step + step / count) 0
  places + base * step / (step + 38)

/-- The bias before the first number. -/
def initialBias : Nat := 72

/-- The first code point outside ASCII. -/
def firstExtended : Nat := 0x80

/-- The bound of all numbers. -/
def limit : Nat := 0x100000000

/-! ## Writing -/

theorem threshold_pos (bias place : Nat) : 0 < threshold bias place := by
  unfold threshold; omega

/-- The digits of a number from a place on. -/
def writeNumber (bias place n : Nat) : Text :=
  let t := threshold bias place
  if n < t then [digitChar n]
  else
    digitChar (t + (n - t) % (base - t)) :: writeNumber bias (place + 1) ((n - t) / (base - t))
termination_by n
decreasing_by
  have := threshold_pos bias place
  have := Nat.div_le_self (n - threshold bias place) (base - threshold bias place)
  omega

/-- A label that is being written: the code point reached, the steps since the last number, the
characters written, and the bias. -/
structure Writer where
  reached : Nat := firstExtended
  steps : Nat := 0
  count : Nat
  bias : Nat := initialBias
  /-- Whether no number has been written yet. -/
  isFirst : Bool := true
  out : Text

/-- Passes one character of the label on the way through it for the code point reached. -/
def Writer.pass (w : Writer) (c : Char) : Writer :=
  if c.toNat < w.reached then { w with steps := w.steps + 1 }
  else if c.toNat = w.reached then
    { w with
      steps := 0
      count := w.count + 1
      bias := adapt w.steps (w.count + 1) w.isFirst
      isFirst := false
      out := w.out ++ writeNumber w.bias 0 w.steps }
  else w

/-- Goes on to the next code point of the label and writes a number for each place that has it. -/
def Writer.visit (label : Text) (w : Writer) (codePoint : Nat) : Writer :=
  let steps := w.steps + (codePoint - w.reached) * (w.count + 1)
  let w := label.foldl Writer.pass { w with reached := codePoint, steps }
  { w with reached := codePoint + 1, steps := w.steps + 1 }

/-- The label in letters, digits and hyphens. -/
def encode (label : Text) : Text :=
  let plain := label.filter (·.toNat < firstExtended)
  let extended := (label.map Char.toNat).filter (firstExtended ≤ ·)
  let out := if plain.isEmpty then [] else plain ++ ['-']
  ((extended.mergeSort (· ≤ ·)).eraseDups.foldl (Writer.visit label)
    { count := plain.length, out }).out

/-! ## Reading -/

/-- Reads the rest of a number: its value, and what follows it. `number` is what the digits so far
make, `weight` what the next digit counts. -/
def readNumber (bias place weight number : Nat) : Text → Option (Nat × Text)
  | [] => none
  | c :: rest =>
    match digitValue? c with
    | none => none
    | some digit =>
      let number := number + digit * weight
      let t := threshold bias place
      if limit ≤ number then none
      else if digit < t then some (number, rest)
      else if limit ≤ weight * (base - t) then none
      else readNumber bias (place + 1) (weight * (base - t)) number rest

theorem readNumber_shorter {bias place weight number n : Nat} {t rest : Text}
    (h : readNumber bias place weight number t = some (n, rest)) : rest.length < t.length := by
  induction t generalizing place weight number with
  | nil => simp [readNumber] at h
  | cons c t ih =>
    rw [readNumber] at h
    split at h
    · simp at h
    · simp only at h
      split at h
      · simp at h
      · split at h
        · simp only [Option.some.injEq, Prod.mk.injEq] at h
          simp [h.2]
        · split at h
          · simp at h
          · have := ih h
            simp only [List.length_cons]
            omega

/-- The character of a code point. -/
def character? (n : Nat) : Option Char := if n.isValidChar then some (Char.ofNat n) else none

/-- Reads numbers and puts their characters into the label. `place` is where the next character goes
if its number is zero. -/
def readNumbers (label : Text) (reached place bias : Nat) (isFirst : Bool) (t : Text) :
    Option Text :=
  if t.isEmpty then some label
  else
    match _h : readNumber bias 0 1 place t with
    | none => none
    | some (number, rest) =>
      let count := label.length + 1
      let reached := reached + number / count
      let here := number % count
      match character? reached with
      | none => none
      | some c =>
        readNumbers (label.take here ++ c :: label.drop here) reached (here + 1)
          (adapt (number - place) count isFirst) false rest
termination_by t.length
decreasing_by exact readNumber_shorter ‹_›

/-- The label that letters, digits and hyphens write. A hyphen divides only if something precedes
it. -/
def decode? (t : Text) : Option Text :=
  let last := (t.reverse.takeWhile (· != '-')).reverse
  let before := t.take (t.length - last.length - 1)
  if before.isEmpty then readNumbers [] firstExtended 0 initialBias true t
  else readNumbers before firstExtended 0 initialBias true last

example : encode ['f', 'a', 'ß'] = ['f', 'a', '-', 'h', 'i', 'a'] := by cbv

example : decode? ['f', 'a', '-', 'h', 'i', 'a'] = some ['f', 'a', 'ß'] := by cbv

end ListeningCharts.DomainName.Punycode
