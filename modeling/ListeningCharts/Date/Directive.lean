import ListeningCharts.Date.Pattern

/-! # Percent notation

A date pattern can also be written with directives: a percent sign, perhaps a hyphen, and a letter,
for a field, and two percent signs for a percent sign; every other character stands for itself.

Main statements: what a pattern is in this notation reads back as the units of the pattern, whatever
its literals are (`readDirectives_toDirectives`), and so it writes the same text
(`formatDirectives?_toDirectives`).
-/

namespace ListeningCharts

namespace DateField

/-- Every field. -/
def all : List DateField :=
  [year, year2, month, month2, monthAbbreviated, monthName, day, day2, weekdayAbbreviated,
    weekdayName, hour, hour2, hourOf12, hourOf12Padded, minute, minute2, second, second2, halfOfDay]

/-- Whether the directive has a hyphen, which leaves out the zero in front, and its letter. -/
def directive : DateField → Bool × Char
  | year => (false, 'Y')
  | year2 => (false, 'y')
  | month => (true, 'm')
  | month2 => (false, 'm')
  | monthAbbreviated => (false, 'b')
  | monthName => (false, 'B')
  | day => (true, 'd')
  | day2 => (false, 'd')
  | weekdayAbbreviated => (false, 'a')
  | weekdayName => (false, 'A')
  | hour => (true, 'H')
  | hour2 => (false, 'H')
  | hourOf12 => (true, 'I')
  | hourOf12Padded => (false, 'I')
  | minute => (true, 'M')
  | minute2 => (false, 'M')
  | second => (true, 'S')
  | second2 => (false, 'S')
  | halfOfDay => (false, 'p')

/-- The field of a directive. -/
def ofDirective? (bare : Bool) (letter : Char) : Option DateField :=
  all.find? fun f => f.directive == (bare, letter)

end DateField

/-- A unit in percent notation. -/
def DateUnit.toDirectives : DateUnit → Text
  | .field f => if f.directive.1 then ['%', '-', f.directive.2] else ['%', f.directive.2]
  | .literal c => if c = '%' then ['%', '%'] else [c]

namespace DatePattern

/-- The pattern in percent notation. -/
def toDirectives (p : DatePattern) : Text := p.units.flatMap DateUnit.toDirectives

/-- Reads percent notation; none if a directive is no field's. -/
def readDirectives : Text → Option (List DateUnit)
  | [] => some []
  | '%' :: '%' :: rest => (readDirectives rest).map (.literal '%' :: ·)
  | '%' :: '-' :: letter :: rest =>
    (DateField.ofDirective? true letter).bind fun f => (readDirectives rest).map (.field f :: ·)
  | '%' :: letter :: rest =>
    (DateField.ofDirective? false letter).bind fun f => (readDirectives rest).map (.field f :: ·)
  | ['%'] => none
  | c :: rest => (readDirectives rest).map (.literal c :: ·)

theorem readDirectives_unit (u : DateUnit) (rest : Text) :
    readDirectives (u.toDirectives ++ rest) = (readDirectives rest).map (u :: ·) := by
  cases u with
  | field f => cases f <;> rfl
  | literal c =>
    by_cases h : c = '%'
    · subst h; rfl
    · rw [DateUnit.toDirectives, if_neg h, List.singleton_append, readDirectives]
      all_goals simp_all

/-- Percent notation is unambiguous: no literal changes how a field is read. -/
theorem readDirectives_toDirectives (p : DatePattern) :
    readDirectives p.toDirectives = some p.units := by
  obtain ⟨source, units⟩ := p
  unfold toDirectives
  induction units with
  | nil => rfl
  | cons u units ih => rw [List.flatMap_cons, readDirectives_unit, ih]; rfl

/-- The text of percent notation at a time; none if a directive is no field's. -/
def formatDirectives? (t : CivilTime) (directives : Text) : Option Text :=
  (readDirectives directives).map fun units => units.flatMap (formatUnit t)

/-- What a pattern is in percent notation writes what the pattern writes. -/
theorem formatDirectives?_toDirectives (p : DatePattern) {seconds : Int}
    (h : CivilTime.isRepresentable seconds = true) :
    formatDirectives? (CivilTime.ofUnix seconds) p.toDirectives = some (p.format seconds) := by
  unfold formatDirectives? format
  rw [readDirectives_toDirectives, if_pos h]
  rfl

end DatePattern

end ListeningCharts
