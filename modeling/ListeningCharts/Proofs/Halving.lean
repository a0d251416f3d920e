import ListeningCharts.Proofs.EditScripts
import ListeningCharts.Proofs.MiddleSnake

/-! # Halving

    A script is found by halving, which asks at every cut whether the cut is proper, and keeps or
    replaces everything if there is none. This module shows that it need not ask:

    * **Halves**: the relation `Halves` says how a script is put together from scripts for both sides
      of a middle snake, and has no case for a cut that is not proper.
    * **Termination**: it has a derivation for any two lists, and that is how their script is found
      (`halves_divide`).
    * **Exactness**: a script that is found by halving makes the one list of the other
      (`Halves.before_eq`, `Halves.after_eq`).
-/

namespace ListeningCharts.Diff

variable {α : Type} [DecidableEq α] {old new : List α} {s : Script α}

/-! ## Common ends -/

omit [DecidableEq α] in
/-- Lists that differ at their starts with something behind them differ there without it. -/
theorem DifferAtStart.of_append {stop : List α} (h : DifferAtStart (old ++ stop) (new ++ stop)) :
    DifferAtStart old new := by
  have hfirst : ∀ (l : List α) (u : α), l[0]? = some u → (l ++ stop)[0]? = some u := by
    intro l u hu
    rw [List.getElem?_append_left (List.getElem?_eq_some_iff.1 hu).1]
    exact hu
  intro u hold hnew
  exact h u (hfirst old u hold) (hfirst new u hnew)

/-- What follows the longest common start differs at its start. -/
theorem differAtStart_splitCommon (old new : List α) :
    DifferAtStart (splitCommon old new).2.1 (splitCommon old new).2.2 := by
  fun_induction splitCommon old new with
  | case1 as b bs common as' bs' h ih =>
    rw [h] at ih
    exact ih
  | case2 a as b bs h =>
    intro u ha hb
    simp only [List.getElem?_cons_zero, Option.some.injEq] at ha hb
    exact h (ha.trans hb.symm)
  | case3 as bs h =>
    -- one of the two lists is empty
    intro u ha hb
    cases as with
    | nil => simp at ha
    | cons a as =>
      cases bs with
      | nil => simp at hb
      | cons b bs => exact h a as b bs rfl rfl

/-- What stands before the longest common end differs at its end. -/
theorem differAtStart_splitCommonEnd (old new : List α) :
    DifferAtStart (splitCommonEnd old new).2.1.reverse (splitCommonEnd old new).2.2.reverse := by
  have hends := differAtStart_splitCommon old.reverse new.reverse
  simpa only [splitCommonEnd, List.reverse_reverse] using hends

/-! ## Scripts by halving -/

/-- How a script is found by halving: the longest common start and then the longest common end stay.
    If nothing of one list is left, what is left of the other comes or goes; else both are cut where
    a middle snake starts, and there is less on either side of the cut. -/
inductive Halves : List α → List α → Script α → Prop where
  | replace (start stop : List α) {deleted inserted : List α}
      (hstart : DifferAtStart (deleted ++ stop) (inserted ++ stop))
      (hempty : deleted = [] ∨ inserted = []) :
      Halves (start ++ deleted ++ stop) (start ++ inserted ++ stop)
        (.kept start ++ .replacing deleted inserted ++ .kept stop)
  | cut (start stop : List α) {old new : List α} {x y : Nat} {s t : Script α}
      (hstart : DifferAtStart (old ++ stop) (new ++ stop))
      (hstop : DifferAtStart old.reverse new.reverse) (hmiddle : middle? old new = some (x, y))
      (hproper : IsProperCut old new x y) (hs : Halves (old.take x) (new.take y) s)
      (ht : Halves (old.drop x) (new.drop y) t) :
      Halves (start ++ old ++ stop) (start ++ new ++ stop) (.kept start ++ (s ++ t) ++ .kept stop)

/-- A script that is found by halving starts from the first list. -/
theorem Halves.before_eq (h : Halves old new s) : s.before = old := by
  induction h with
  | replace => simp
  | @cut start stop old new x y s t _ _ _ _ _ _ ihs iht =>
    simp only [Script.before_append, Script.before_kept, ihs, iht, List.take_append_drop]

/-- A script that is found by halving ends in the second list. -/
theorem Halves.after_eq (h : Halves old new s) : s.after = new := by
  induction h with
  | replace => simp
  | @cut start stop old new x y s t _ _ _ _ _ _ ihs iht =>
    simp only [Script.after_append, Script.after_kept, ihs, iht, List.take_append_drop]

section Unfolding

variable {start old' new' stop deleted inserted : List α}
  (hstart : splitCommon old new = (start, old', new'))
  (hstop : splitCommonEnd old' new' = (stop, deleted, inserted))

include hstart hstop

/-- Between the common ends, everything goes or everything comes. -/
theorem divide_eq_replacing (hempty : deleted = [] ∨ inserted = []) :
    divide old new = .kept start ++ .replacing deleted inserted ++ .kept stop := by
  unfold divide
  simp only [hstart, hstop]
  cases deleted with
  | nil => rfl
  | cons d deleted =>
    cases inserted with
    | nil => rfl
    | cons i inserted => simp at hempty

/-- Between the common ends, both sides of a cut are treated in the same way. -/
theorem divide_eq_append {x y : Nat} (hdeleted : deleted ≠ []) (hinserted : inserted ≠ [])
    (hmiddle : middle? deleted inserted = some (x, y)) (hproper : IsProperCut deleted inserted x y) :
    divide old new = .kept start ++ (divide (deleted.take x) (inserted.take y) ++
      divide (deleted.drop x) (inserted.drop y)) ++ .kept stop := by
  rw [divide]
  simp only [hstart, hstop]
  cases deleted with
  | nil => exact absurd rfl hdeleted
  | cons d deleted =>
    cases inserted with
    | nil => exact absurd rfl hinserted
    | cons i inserted => simp only [hmiddle, if_pos hproper]

end Unfolding

/-- **Halving ends, and every cut is proper**: the script of two lists is found without lists that
    are replaced as a whole because there is no proper cut of them. -/
theorem halves_divide (old new : List α) : Halves old new (divide old new) := by
  induction old, new using divide.induct with
  | case1 old new start rest htake hdrop =>
    obtain ⟨hstart, hstart'⟩ := splitCommon_append old new
    obtain ⟨hstop, hstop'⟩ := splitCommonEnd_append start.2.1 start.2.2
    have hheads : DifferAtStart (rest.2.1 ++ rest.1) (rest.2.2 ++ rest.1) := by
      rw [← hstop, ← hstop']
      exact differAtStart_splitCommon old new
    have hlasts := differAtStart_splitCommonEnd start.2.1 start.2.2
    have hold : old = start.1 ++ rest.2.1 ++ rest.1 := by
      rw [List.append_assoc, ← hstop]
      exact hstart
    have hnew : new = start.1 ++ rest.2.2 ++ rest.1 := by
      rw [List.append_assoc, ← hstop']
      exact hstart'
    by_cases hempty : rest.2.1 = [] ∨ rest.2.2 = []
    · rw [divide_eq_replacing rfl rfl hempty]
      have hhalves := Halves.replace start.1 rest.1 hheads hempty
      rwa [← hold, ← hnew] at hhalves
    · obtain ⟨hdeleted, hinserted⟩ := not_or.1 hempty
      -- lists that differ at both ends have a middle snake
      obtain ⟨x, y, hmiddle, hproper⟩ :=
        exists_middle hdeleted hinserted hheads.of_append hlasts
      rw [divide_eq_append rfl rfl hdeleted hinserted hmiddle hproper]
      have hhalves := Halves.cut start.1 rest.1 hheads hlasts hmiddle hproper
        (htake x y hproper) (hdrop x y hproper)
      rwa [← hold, ← hnew] at hhalves

/-- A list stays as it is if it becomes itself. -/
theorem divide_self (items : List α) : divide items items = .kept items := by
  have hstart : splitCommon items items = (items, [], []) := by
    induction items with
    | nil => rfl
    | cons a items ih => simp [splitCommon, ih]
  rw [divide_eq_replacing hstart (by rfl) (.inl rfl)]
  simp [Script.kept, Script.replacing]

end ListeningCharts.Diff
