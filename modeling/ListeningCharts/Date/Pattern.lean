import ListeningCharts.Text.Basic
import ListeningCharts.Date.Calendar

/-! # Date pattern

A pattern such as `d. MMMM yyyy` is a list of units, read from left to right. A run of one ASCII
letter is a field, in a style that depends on the length of the run; two apostrophes are an
apostrophe; text between single apostrophes, and every character that is no letter, stands for
itself.
-/

namespace ListeningCharts

/-- A part of a date or time in one style. A `2` marks the style with two digits, `12` the clock of
twelve hours. -/
inductive DateField where
  | year | year2
  | month | month2 | monthAbbreviated | monthName
  | day | day2
  | weekdayAbbreviated | weekdayName
  | hour | hour2 | hourOf12 | hourOf12Padded
  | minute | minute2
  | second | second2
  | halfOfDay
  deriving DecidableEq, Repr

/-- A unit of a pattern. -/
inductive DateUnit where
  | field (f : DateField)
  | literal (c : Char)
  deriving DecidableEq, Repr

/-- Why a text is no date pattern. -/
inductive DatePatternFault where
  | unterminatedQuote
  | unsupported (letter : Char) (length : Nat)
  deriving DecidableEq, Repr

/-- A date pattern as it was written, with its units. -/
structure DatePattern where
  source : Text
  units : List DateUnit
  deriving DecidableEq, Repr

/-! ## Fields -/

namespace DateField

/-- The field that a run of `length` times `letter` writes. -/
def ofRun? (letter : Char) (length : Nat) : Option DateField :=
  match letter with
  | 'y' => some (if length = 2 then .year2 else .year)
  | 'M' => some (match length with
    | 1 => .month
    | 2 => .month2
    | 3 => .monthAbbreviated
    | _ => .monthName)
  | 'd' => some (if length = 1 then .day else .day2)
  | 'E' => some (if length ≤ 3 then .weekdayAbbreviated else .weekdayName)
  | 'H' => some (if length = 1 then .hour else .hour2)
  | 'h' => some (if length = 1 then .hourOf12 else .hourOf12Padded)
  | 'm' => some (if length = 1 then .minute else .minute2)
  | 's' => some (if length = 1 then .second else .second2)
  | 'a' => some .halfOfDay
  | _ => none

/-- The English names of the months. -/
def monthNames : List Text :=
  ["January", "February", "March", "April", "May", "June", "July", "August", "September",
    "October", "November", "December"]

/-- The English names of the days of the week. -/
def weekdayNames : List Text :=
  ["Sunday", "Monday", "Tuesday", "Wednesday", "Thursday", "Friday", "Saturday"]

/-- The year with four digits at least, and with a sign outside the years 0 to 9999. -/
def fullYear (year : Int) : Text :=
  if year < 0 then '-' :: Text.padded 4 year.natAbs
  else if year > 9999 then '+' :: Text.padded 4 year.natAbs
  else Text.padded 4 year.natAbs

/-- The hour on a clock of twelve hours. -/
def twelveHour (hour : Nat) : Nat := if hour % 12 = 0 then 12 else hour % 12

/-- The text of a field. -/
def format (t : CivilTime) : DateField → Text
  | .year => fullYear t.year
  | .year2 => Text.padded 2 (t.year % 100).toNat
  | .month => Text.ofNat t.month
  | .month2 => Text.padded 2 t.month
  | .monthAbbreviated => (monthNames.getD (t.month - 1) []).take 3
  | .monthName => monthNames.getD (t.month - 1) []
  | .day => Text.ofNat t.day
  | .day2 => Text.padded 2 t.day
  | .weekdayAbbreviated => (weekdayNames.getD t.weekday []).take 3
  | .weekdayName => weekdayNames.getD t.weekday []
  | .hour => Text.ofNat t.hour
  | .hour2 => Text.padded 2 t.hour
  | .hourOf12 => Text.ofNat (twelveHour t.hour)
  | .hourOf12Padded => Text.padded 2 (twelveHour t.hour)
  | .minute => Text.ofNat t.minute
  | .minute2 => Text.padded 2 t.minute
  | .second => Text.ofNat t.second
  | .second2 => Text.padded 2 t.second
  | .halfOfDay => if t.hour < 12 then "AM" else "PM"

end DateField

/-! ## Reading -/

namespace DatePattern

/-- Where a pattern is being read: outside quotes, perhaps after the start of a run, or inside. -/
inductive Place where
  | outside (run : Option (Char × Nat))
  | inside

/-- The unit of a run that has ended. -/
def endRun : Option (Char × Nat) → Except DatePatternFault (List DateUnit)
  | none => .ok []
  | some (letter, length) =>
    match DateField.ofRun? letter length with
    | some f => .ok [.field f]
    | none => .error (.unsupported letter length)

/-- The units of the rest of a pattern, read from `place` on. -/
def readUnits : Place → Text → Except DatePatternFault (List DateUnit)
  | .outside run, [] => endRun run
  | .outside run, '\'' :: '\'' :: rest => do
    return (← endRun run) ++ .literal '\'' :: (← readUnits (.outside none) rest)
  | .outside run, '\'' :: rest => do
    return (← endRun run) ++ (← readUnits .inside rest)
  | .outside run, c :: rest =>
    match run with
    | some (letter, length) =>
      if c = letter then readUnits (.outside (some (letter, length + 1))) rest
      else if c.isAlpha then do
        return (← endRun run) ++ (← readUnits (.outside (some (c, 1))) rest)
      else do
        return (← endRun run) ++ .literal c :: (← readUnits (.outside none) rest)
    | none =>
      if c.isAlpha then readUnits (.outside (some (c, 1))) rest
      else do return .literal c :: (← readUnits (.outside none) rest)
  | .inside, [] => .error .unterminatedQuote
  | .inside, '\'' :: rest => readUnits (.outside none) rest
  | .inside, c :: rest => do return .literal c :: (← readUnits .inside rest)

section Reading

variable {c letter : Char} {length : Nat} {run : Option (Char × Nat)} {rest : Text}

theorem endRun_none : endRun none = pure [] := rfl

theorem readUnits_outside_nil : readUnits (.outside run) [] = endRun run := rfl

theorem readUnits_outside_pair : readUnits (.outside run) ('\'' :: '\'' :: rest) = (do
    return (← endRun run) ++ .literal '\'' :: (← readUnits (.outside none) rest)) := rfl

/-- Outside quotes an apostrophe that no other follows opens a quote. -/
theorem readUnits_outside_quote (h : rest.head? ≠ some '\'') :
    readUnits (.outside run) ('\'' :: rest) = (do
      return (← endRun run) ++ (← readUnits .inside rest)) := by
  rw [readUnits]
  intro more heq
  exact h (by rw [heq]; rfl)

theorem readUnits_inside_nil : readUnits .inside [] = .error .unterminatedQuote := rfl

/-- Inside quotes an apostrophe closes them. -/
theorem readUnits_inside_quote :
    readUnits .inside ('\'' :: rest) = readUnits (.outside none) rest := rfl

/-- How any character but an apostrophe is read. -/
theorem readUnits_cons (h : c ≠ '\'') (place : Place) : readUnits place (c :: rest) =
    match place with
    | .inside => do return .literal c :: (← readUnits .inside rest)
    | .outside none =>
      if c.isAlpha then readUnits (.outside (some (c, 1))) rest
      else do return .literal c :: (← readUnits (.outside none) rest)
    | .outside (some (letter, length)) =>
      if c = letter then readUnits (.outside (some (letter, length + 1))) rest
      else if c.isAlpha then do
        return (← endRun (some (letter, length))) ++ (← readUnits (.outside (some (c, 1))) rest)
      else do
        return (← endRun (some (letter, length))) ++ .literal c ::
          (← readUnits (.outside none) rest) := by
  have hpair : ∀ more, c = '\'' → rest = '\'' :: more → False := fun _ heq _ => h heq
  cases place with
  | inside =>
    rw [readUnits]
    exact h
  | outside run =>
    cases run with
    | none =>
      rw [readUnits]
      · exact hpair
      · exact h
    | some run =>
      rw [readUnits]
      · exact hpair
      · exact h

theorem readUnits_inside_cons (h : c ≠ '\'') : readUnits .inside (c :: rest) = (do
    return .literal c :: (← readUnits .inside rest)) :=
  readUnits_cons h .inside

theorem readUnits_none_cons (h : c ≠ '\'') : readUnits (.outside none) (c :: rest) =
    if c.isAlpha then readUnits (.outside (some (c, 1))) rest
    else do return .literal c :: (← readUnits (.outside none) rest) :=
  readUnits_cons h (.outside none)

theorem readUnits_run_cons (h : c ≠ '\'') :
    readUnits (.outside (some (letter, length))) (c :: rest) =
      if c = letter then readUnits (.outside (some (letter, length + 1))) rest
      else if c.isAlpha then do
        return (← endRun (some (letter, length))) ++ (← readUnits (.outside (some (c, 1))) rest)
      else do
        return (← endRun (some (letter, length))) ++ .literal c ::
          (← readUnits (.outside none) rest) :=
  readUnits_cons h (.outside (some (letter, length)))

end Reading

/-- Reads a pattern. -/
def parse (source : Text) : Except DatePatternFault DatePattern := do
  return { source, units := ← readUnits (.outside none) source }

/-- The text of a unit at a time. -/
def formatUnit (t : CivilTime) : DateUnit → Text
  | .field f => f.format t
  | .literal c => [c]

/-- The text of a pattern at a count of seconds since 1970; seconds without a date are written as
the number they are. -/
def format (p : DatePattern) (seconds : Int) : Text :=
  if CivilTime.isRepresentable seconds then
    p.units.flatMap (formatUnit (CivilTime.ofUnix seconds))
  else Text.ofInt seconds

end DatePattern

end ListeningCharts
