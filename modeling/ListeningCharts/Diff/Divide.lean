import ListeningCharts.Diff.Script
import ListeningCharts.Diff.Snake

/-! # Shortest scripts by halving

What two lists have in common at their starts and ends stays; what is left is cut at a middle snake,
and the halves are treated in the same way.
-/

namespace ListeningCharts.Diff

/-! ## Common ends -/

/-- The longest list with which both lists start, and what follows it in each. -/
def splitCommon {α : Type} [DecidableEq α] : List α → List α → List α × List α × List α
  | a :: as, b :: bs =>
    if a = b then
      let (common, as, bs) := splitCommon as bs
      (a :: common, as, bs)
    else ([], a :: as, b :: bs)
  | as, bs => ([], as, bs)

/-- The longest list with which both lists end, and what stands before it in each. -/
def splitCommonEnd {α : Type} [DecidableEq α] (old new : List α) : List α × List α × List α :=
  let (common, old, new) := splitCommon old.reverse new.reverse
  (common.reverse, old.reverse, new.reverse)

section

variable {α : Type} [DecidableEq α]

theorem splitCommon_append (old new : List α) :
    old = (splitCommon old new).1 ++ (splitCommon old new).2.1
      ∧ new = (splitCommon old new).1 ++ (splitCommon old new).2.2 := by
  induction old generalizing new with
  | nil => simp [splitCommon]
  | cons a as ih =>
    cases new with
    | nil => simp [splitCommon]
    | cons b bs =>
      by_cases h : a = b
      · subst h
        simpa [splitCommon] using ih bs
      · simp [splitCommon, h]

theorem splitCommonEnd_append (old new : List α) :
    old = (splitCommonEnd old new).2.1 ++ (splitCommonEnd old new).1
      ∧ new = (splitCommonEnd old new).2.2 ++ (splitCommonEnd old new).1 := by
  obtain ⟨h, h'⟩ := splitCommon_append old.reverse new.reverse
  constructor
  · simpa [splitCommonEnd] using congrArg List.reverse h
  · simpa [splitCommonEnd] using congrArg List.reverse h'

theorem length_splitCommon_le (old new : List α) :
    (splitCommon old new).2.1.length ≤ old.length
      ∧ (splitCommon old new).2.2.length ≤ new.length := by
  obtain ⟨h, h'⟩ := splitCommon_append old new
  have hl := congrArg List.length h
  have hl' := congrArg List.length h'
  simp only [List.length_append] at hl hl'
  omega

theorem length_splitCommonEnd_le (old new : List α) :
    (splitCommonEnd old new).2.1.length ≤ old.length
      ∧ (splitCommonEnd old new).2.2.length ≤ new.length := by
  obtain ⟨h, h'⟩ := splitCommonEnd_append old new
  have hl := congrArg List.length h
  have hl' := congrArg List.length h'
  simp only [List.length_append] at hl hl'
  omega

end

/-! ## Halving -/

/-- Whether a cut leaves less than the whole on both of its sides. -/
def IsProperCut {α : Type} (old new : List α) (x y : Nat) : Prop :=
  x ≤ old.length ∧ y ≤ new.length ∧ 0 < x + y ∧ x + y < old.length + new.length

instance {α : Type} (old new : List α) (x y : Nat) : Decidable (IsProperCut old new x y) :=
  inferInstanceAs (Decidable (_ ∧ _))

/-- A script from one list to another, found by halving. -/
def divide {α : Type} [DecidableEq α] (old new : List α) : Script α :=
  let start := splitCommon old new
  let rest := splitCommonEnd start.2.1 start.2.2
  let inner : Script α :=
    match rest.2.1, rest.2.2 with
    | [], inserted => .replacing [] inserted
    | deleted, [] => .replacing deleted []
    | deleted, inserted =>
      match middle? deleted inserted with
      | none => .replacing deleted inserted
      | some (x, y) =>
        if IsProperCut rest.2.1 rest.2.2 x y then
          divide (rest.2.1.take x) (rest.2.2.take y) ++ divide (rest.2.1.drop x) (rest.2.2.drop y)
        else .replacing deleted inserted
  .kept start.1 ++ inner ++ .kept rest.1
termination_by old.length + new.length
decreasing_by
  all_goals
    have h := length_splitCommon_le old new
    have h' := length_splitCommonEnd_le (splitCommon old new).2.1 (splitCommon old new).2.2
    simp_all only [IsProperCut, List.length_take, List.length_drop, rest, start]
    omega

end ListeningCharts.Diff
