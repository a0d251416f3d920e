import ListeningCharts.Diff.Divide
import Mathlib.Data.List.Basic

/-! # Paths of edits

    The positions in two lists make a plane. A deletion goes one step in the first list, an insertion
    one step in the second, and an item that both lists have at their positions is kept with a step in
    both. The plane does not end where the lists end, but beyond them nothing is kept.

    * **Composition**: paths are put together (`Path.trans`), cut after any number of edits
      (`Path.exists_cut`), and turned round (`Path.reverse`).
    * **Bounds**: the edits of a path tell how far it is from its diagonal (`Path.diagonal_le`), and
      whether they are even or odd is told from its ends (`Path.parity`).
    * **The edge**: a path that leaves the lists edits on from there (`Path.exists_exit`).
    * **Distance**: two lists are as many edits apart as every path through both of them has at
      least (`IsApart`).
-/

namespace ListeningCharts.Diff

variable {α : Type}

/-- A path in the plane of two lists from the point `x₀ y₀`, with a number of edits, to a point. -/
inductive Path (old new : List α) (x₀ y₀ : Nat) : Nat → Nat → Nat → Prop where
  | refl : Path old new x₀ y₀ 0 x₀ y₀
  | delete {d x y : Nat} (h : Path old new x₀ y₀ d x y) : Path old new x₀ y₀ (d + 1) (x + 1) y
  | insert {d x y : Nat} (h : Path old new x₀ y₀ d x y) : Path old new x₀ y₀ (d + 1) x (y + 1)
  | keep {d x y : Nat} {u : α} (h : Path old new x₀ y₀ d x y) (hold : old[x]? = some u)
      (hnew : new[y]? = some u) : Path old new x₀ y₀ d (x + 1) (y + 1)

namespace Path

variable {old new : List α} {x₀ y₀ d e x y x' y' : Nat}

/-! ## Composition -/

/-- Two paths, one after the other. -/
theorem trans (h : Path old new x₀ y₀ d x y) (h' : Path old new x y e x' y') :
    Path old new x₀ y₀ (d + e) x' y' := by
  induction h' with
  | refl => exact h
  | delete _ ih => exact .delete ih
  | insert _ ih => exact .insert ih
  | keep _ hold hnew ih => exact .keep ih hold hnew

/-- A path is cut in two after any number of its edits. -/
theorem exists_cut (h : Path old new x₀ y₀ d x y) {e : Nat} (he : e ≤ d) :
    ∃ p q, Path old new x₀ y₀ e p q ∧ Path old new p q (d - e) x y := by
  induction h with
  | refl =>
    obtain rfl : e = 0 := by omega
    exact ⟨x₀, y₀, .refl, .refl⟩
  | @delete d x y h ih =>
    by_cases hall : e = d + 1
    · subst hall
      exact ⟨x + 1, y, .delete h, by rw [Nat.sub_self]; exact .refl⟩
    · obtain ⟨p, q, hfirst, hsecond⟩ := ih (by omega)
      refine ⟨p, q, hfirst, ?_⟩
      rw [Nat.succ_sub (by omega)]
      exact .delete hsecond
  | @insert d x y h ih =>
    by_cases hall : e = d + 1
    · subst hall
      exact ⟨x, y + 1, .insert h, by rw [Nat.sub_self]; exact .refl⟩
    · obtain ⟨p, q, hfirst, hsecond⟩ := ih (by omega)
      refine ⟨p, q, hfirst, ?_⟩
      rw [Nat.succ_sub (by omega)]
      exact .insert hsecond
  | keep _ hold hnew ih =>
    obtain ⟨p, q, hfirst, hsecond⟩ := ih he
    exact ⟨p, q, hfirst, .keep hsecond hold hnew⟩

/-- Edits alone lead to any point further on. -/
theorem exists_edits (h : Path old new x₀ y₀ d x y) (hx : x ≤ x') (hy : y ≤ y') :
    Path old new x₀ y₀ (d + (x' - x) + (y' - y)) x' y' := by
  have hdeleted : ∀ i, Path old new x₀ y₀ (d + i) (x + i) y := by
    intro i
    induction i with
    | zero => exact h
    | succ i ih => exact .delete ih
  have hinserted : ∀ j, Path old new x₀ y₀ (d + (x' - x) + j) x' (y + j) := by
    intro j
    induction j with
    | zero =>
      have hsum := hdeleted (x' - x)
      rwa [Nat.add_sub_cancel' hx] at hsum
    | succ j ih => exact .insert ih
  have hsum := hinserted (y' - y)
  rwa [Nat.add_sub_cancel' hy] at hsum

/-! ## Bounds -/

theorem start_le (h : Path old new x₀ y₀ d x y) : x₀ ≤ x ∧ y₀ ≤ y := by
  induction h with
  | refl => exact ⟨Nat.le_refl _, Nat.le_refl _⟩
  | delete _ ih => exact ⟨Nat.le_succ_of_le ih.1, ih.2⟩
  | insert _ ih => exact ⟨ih.1, Nat.le_succ_of_le ih.2⟩
  | keep _ _ _ ih => exact ⟨Nat.le_succ_of_le ih.1, Nat.le_succ_of_le ih.2⟩

/-- Every edit leads a step further. -/
theorem edits_le (h : Path old new x₀ y₀ d x y) : x₀ + y₀ + d ≤ x + y := by
  induction h with
  | refl => omega
  | delete _ ih | insert _ ih | keep _ _ _ ih => omega

/-- An edit leads to a diagonal next to the one before. -/
theorem diagonal_le (h : Path old new x₀ y₀ d x y) :
    (x : Int) - y ≤ x₀ - y₀ + d ∧ (x₀ : Int) - y₀ - d ≤ x - y := by
  induction h with
  | refl => omega
  | delete _ ih | insert _ ih | keep _ _ _ ih => omega

/-- An item that is kept changes the sum of the positions by two. -/
theorem parity (h : Path old new x₀ y₀ d x y) : (x + y) % 2 = (x₀ + y₀ + d) % 2 := by
  induction h with
  | refl => omega
  | delete _ ih | insert _ ih | keep _ _ _ ih => omega

/-- Without an edit a path stays where it starts if the items there differ. -/
theorem eq_of_no_edit (hdiffer : ∀ u, old[x₀]? = some u → new[y₀]? ≠ some u)
    (h : Path old new x₀ y₀ d x y) (hd : d = 0) : x = x₀ ∧ y = y₀ := by
  induction h with
  | refl => exact ⟨rfl, rfl⟩
  | delete _ _ | insert _ _ => omega
  | keep _ hold hnew ih =>
    obtain ⟨rfl, rfl⟩ := ih hd
    exact absurd hnew (hdiffer _ hold)

/-! ## The edge of the lists -/

/-- A path that leaves the lists does so at a point from which on it only edits. -/
theorem exists_exit (h : Path old new x₀ y₀ d x y) (hx₀ : x₀ ≤ old.length) (hy₀ : y₀ ≤ new.length) :
    (x ≤ old.length ∧ y ≤ new.length) ∨
    ∃ d₁ x₁ y₁, Path old new x₀ y₀ d₁ x₁ y₁ ∧ x₁ ≤ old.length ∧ y₁ ≤ new.length ∧ x₁ ≤ x ∧ y₁ ≤ y ∧
      ((x₁ = old.length ∧ x₁ < x) ∨ (y₁ = new.length ∧ y₁ < y)) ∧ d + x₁ + y₁ = d₁ + x + y := by
  induction h with
  | refl => exact .inl ⟨hx₀, hy₀⟩
  | @delete d x y h ih =>
    rcases ih with ⟨hx, hy⟩ | ⟨d₁, x₁, y₁, hpath, hx₁, hy₁, hxx, hyy, hedge, hsum⟩
    · by_cases hlast : x = old.length
      · exact .inr ⟨d, x, y, h, hx, hy, by omega, by omega, by omega, by omega⟩
      · exact .inl ⟨by omega, hy⟩
    · exact .inr ⟨d₁, x₁, y₁, hpath, hx₁, hy₁, by omega, by omega, by omega, by omega⟩
  | @insert d x y h ih =>
    rcases ih with ⟨hx, hy⟩ | ⟨d₁, x₁, y₁, hpath, hx₁, hy₁, hxx, hyy, hedge, hsum⟩
    · by_cases hlast : y = new.length
      · exact .inr ⟨d, x, y, h, hx, hy, by omega, by omega, by omega, by omega⟩
      · exact .inl ⟨hx, by omega⟩
    · exact .inr ⟨d₁, x₁, y₁, hpath, hx₁, hy₁, by omega, by omega, by omega, by omega⟩
  | @keep d x y u h hold hnew ih =>
    -- nothing is kept beyond the end of a list
    have hx := (List.getElem?_eq_some_iff.1 hold).1
    have hy := (List.getElem?_eq_some_iff.1 hnew).1
    exact .inl ⟨hx, hy⟩

/-! ## Turning round -/

/-- A path between points of the lists is a path between the same points of the reversed lists,
    counted from the ends. -/
theorem reverse (h : Path old new x₀ y₀ d x y) (hx : x ≤ old.length) (hy : y ≤ new.length) :
    Path old.reverse new.reverse (old.length - x) (new.length - y) d (old.length - x₀)
      (new.length - y₀) := by
  induction h with
  | refl => exact .refl
  | @delete d x y h ih =>
    have hstep : Path old.reverse new.reverse (old.length - (x + 1)) (new.length - y) 1
        (old.length - x) (new.length - y) := by
      have hone := Path.delete (.refl : Path old.reverse new.reverse (old.length - (x + 1))
        (new.length - y) 0 _ _)
      rwa [show old.length - (x + 1) + 1 = old.length - x by omega] at hone
    rw [Nat.add_comm d 1]
    exact hstep.trans (ih (by omega) hy)
  | @insert d x y h ih =>
    have hstep : Path old.reverse new.reverse (old.length - x) (new.length - (y + 1)) 1
        (old.length - x) (new.length - y) := by
      have hone := Path.insert (.refl : Path old.reverse new.reverse (old.length - x)
        (new.length - (y + 1)) 0 _ _)
      rwa [show new.length - (y + 1) + 1 = new.length - y by omega] at hone
    rw [Nat.add_comm d 1]
    exact hstep.trans (ih hx (by omega))
  | @keep d x y u h hold hnew ih =>
    have hstep : Path old.reverse new.reverse (old.length - (x + 1)) (new.length - (y + 1)) 0
        (old.length - x) (new.length - y) := by
      -- the item in front of a point is the one behind it in the reversed list
      have hold' : old.reverse[old.length - (x + 1)]? = some u := by
        rw [List.getElem?_reverse (by omega), ← hold]
        congr 1
        omega
      have hnew' : new.reverse[new.length - (y + 1)]? = some u := by
        rw [List.getElem?_reverse (by omega), ← hnew]
        congr 1
        omega
      have hone := Path.keep (.refl : Path old.reverse new.reverse (old.length - (x + 1))
        (new.length - (y + 1)) 0 _ _) hold' hnew'
      rwa [show old.length - (x + 1) + 1 = old.length - x by omega,
        show new.length - (y + 1) + 1 = new.length - y by omega] at hone
    rw [← Nat.zero_add d]
    exact hstep.trans (ih (by omega) (by omega))

/-- A path through both lists, turned round. -/
theorem reverse_whole (h : Path old new 0 0 d old.length new.length) :
    Path old.reverse new.reverse 0 0 d old.reverse.length new.reverse.length := by
  have hturned := h.reverse (Nat.le_refl _) (Nat.le_refl _)
  rw [Nat.sub_self, Nat.sub_self] at hturned
  simpa using hturned

end Path

/-! ## Lists apart -/

/-- No path through both lists has fewer edits. -/
def IsApart (old new : List α) (edits : Nat) : Prop :=
  ∀ d, Path old new 0 0 d old.length new.length → edits ≤ d

namespace IsApart

variable {old new : List α} {edits : Nat}

theorem zero : IsApart old new 0 := fun d _ => Nat.zero_le d

/-- To delete the one list and to insert the other is a path. -/
theorem le (h : IsApart old new edits) : edits ≤ old.length + new.length := by
  have hall := h _ (Path.refl.exists_edits (Nat.zero_le old.length) (Nat.zero_le new.length))
  omega

theorem succ_of_not_path (h : IsApart old new edits)
    (hnot : ¬ Path old new 0 0 edits old.length new.length) : IsApart old new (edits + 1) := by
  intro d hpath
  have hle := h d hpath
  have hne : edits ≠ d := fun heq => hnot (heq ▸ hpath)
  omega

/-- Whether the edits of a path through both lists are even or odd is told from their lengths. -/
theorem succ_of_parity (h : IsApart old new edits)
    (hparity : edits % 2 ≠ (old.length + new.length) % 2) : IsApart old new (edits + 1) := by
  apply h.succ_of_not_path
  intro hpath
  have hsum := hpath.parity
  omega

theorem reverse (h : IsApart old new edits) : IsApart old.reverse new.reverse edits := by
  intro d hpath
  have hturned := hpath.reverse_whole
  rw [List.reverse_reverse, List.reverse_reverse] at hturned
  exact h d hturned

end IsApart

end ListeningCharts.Diff
