import ListeningCharts.Proofs.EditPaths

/-! # The middle snake

    The search for a middle snake keeps for each diagonal how far paths with a number of edits come.

    * **Fronts**: a search that has come as far as paths with `d` edits come (`IsFront`) comes with
      one more edit as far as paths with `d + 1` edits come (`isFront_frontOf`).
    * **Meetings**: where the two searches do not meet there is no path through both lists with the
      edits that they have used (`not_path_of_no_meeting`), and where they meet the lists can be cut
      with less on either side (`isProperCut_of_meeting`).
    * **Search**: as edits alone are a path, the searches meet before they have tried all
      (`exists_middle`).
-/

namespace ListeningCharts.Diff

variable {α : Type} {old new : List α} {d x y : Nat} {k : Int}

/-- Two lists have no item in common at their starts. -/
def DifferAtStart (old new : List α) : Prop := ∀ u, old[0]? = some u → new[0]? ≠ some u

/-! ## How far paths come -/

/-- Some path with `d` edits comes as far as `x` on a diagonal, and none comes further. -/
structure IsFurthest (old new : List α) (d : Nat) (k : Int) (x : Nat) : Prop where
  reached : ∃ y : Nat, (x : Int) - y = k ∧ Path old new 0 0 d x y
  furthest : ∀ x' y' : Nat, Path old new 0 0 d x' y' → (x' : Int) - y' = k → x' ≤ x

/-- A front tells for each of its diagonals how far paths with `d` edits come. -/
structure IsFront (old new : List α) (d : Nat) (front : Front) : Prop where
  length : front.length = d + 1
  furthest : ∀ i x : Nat, front[i]? = some x → IsFurthest old new d ((d : Int) - 2 * i) x

/-- A front that is known before paths with `d` edits are tried: that of one edit less. -/
inductive IsKnown (old new : List α) : Nat → Front → Prop where
  | first : IsKnown old new 0 []
  | next {d : Nat} {front : Front} (h : IsFront old new d front) : IsKnown old new (d + 1) front

/-- A path with `d` edits ends with an edit, or starts there. -/
inductive IsEntered (old new : List α) : Nat → Nat → Nat → Prop where
  | start : IsEntered old new 0 0 0
  | delete {d x y : Nat} (h : Path old new 0 0 d x y) : IsEntered old new (d + 1) (x + 1) y
  | insert {d x y : Nat} (h : Path old new 0 0 d x y) : IsEntered old new (d + 1) x (y + 1)

theorem IsEntered.path (h : IsEntered old new d x y) : Path old new 0 0 d x y := by
  cases h with
  | start => exact .refl
  | delete h => exact .delete h
  | insert h => exact .insert h

/-- Every path enters its diagonal somewhere, and keeps items from there on. -/
theorem Path.exists_entered (h : Path old new 0 0 d x y) : ∃ x₁ y₁ r, IsEntered old new d x₁ y₁ ∧
    x = x₁ + r ∧ y = y₁ + r ∧
    ∀ j < r, ∃ u, old[x₁ + j]? = some u ∧ new[y₁ + j]? = some u := by
  induction h with
  | refl => exact ⟨0, 0, 0, .start, rfl, rfl, by simp⟩
  | delete h _ => exact ⟨_, _, 0, .delete h, rfl, rfl, by simp⟩
  | insert h _ => exact ⟨_, _, 0, .insert h, rfl, rfl, by simp⟩
  | @keep d x y u h hold hnew ih =>
    obtain ⟨x₁, y₁, r, hentered, rfl, rfl, hkept⟩ := ih
    refine ⟨x₁, y₁, r + 1, hentered, rfl, rfl, ?_⟩
    intro j hj
    by_cases hlast : j = r
    · exact ⟨u, hlast ▸ hold, hlast ▸ hnew⟩
    · exact hkept j (by omega)

/-! ## Fronts by diagonals -/

theorem IsFront.ne_nil {front : Front} (h : IsFront old new d front) : front ≠ [] := by
  intro hnil
  have hlength := h.length
  rw [hnil] at hlength
  cases hlength

/-- What a front tells about a diagonal that it has. -/
theorem IsFront.isFurthest {front : Front} (h : IsFront old new d front)
    (hparity : ((d : Int) - k) % 2 = 0) (hx : front.get? d k = some x) :
    -(d : Int) ≤ k ∧ k ≤ d ∧ IsFurthest old new d k x := by
  unfold Front.get? at hx
  split at hx
  · next hk =>
    have hfurthest := h.furthest _ x hx
    have hdiagonal : (d : Int) - 2 * (((d : Int) - k) / 2).toNat = k := by omega
    rw [hdiagonal] at hfurthest
    exact ⟨hk.1, hk.2, hfurthest⟩
  · cases hx

/-- A front has the diagonal of every path. -/
theorem IsFront.exists_getElem? {front : Front} (h : IsFront old new d front)
    (hpath : Path old new 0 0 d x y) {i : Nat} (hi : (x : Int) - y = d - 2 * i) :
    ∃ z, front[i]? = some z ∧ x ≤ z := by
  have hbound := hpath.diagonal_le
  have hlt : i < front.length := by
    rw [h.length]
    omega
  have hz := List.getElem?_eq_getElem hlt
  exact ⟨_, hz, (h.furthest i _ hz).furthest x y hpath hi⟩

theorem IsFront.exists_get? {front : Front} (h : IsFront old new d front)
    (hpath : Path old new 0 0 d x y) : ∃ z, front.get? d ((x : Int) - y) = some z ∧ x ≤ z := by
  have hbound := hpath.diagonal_le
  have hparity := hpath.parity
  have hi : (x : Int) - y = d - 2 * (((d : Int) - (x - y)) / 2).toNat := by omega
  obtain ⟨z, hz, hle⟩ := h.exists_getElem? hpath hi
  refine ⟨z, ?_, hle⟩
  rw [Front.get?, if_pos (by omega)]
  exact hz

/-! ## Meetings -/

section Meetings

variable {found : List Snake} {n : Nat} {delta e : Int} {other : Front} {s : Snake}

theorem mem_of_meeting (h : meeting? found n delta other e = some s) :
    s ∈ found ∧ ∃ z, other.get? e (delta - s.diagonal) = some z ∧ n ≤ s.stop + z := by
  refine ⟨List.mem_of_find?_eq_some h, ?_⟩
  have hs := List.find?_some h
  cases hget : other.get? e (delta - s.diagonal) with
  | none => simp [hget] at hs
  | some z => exact ⟨z, rfl, by simpa [hget] using hs⟩

/-- Searches that overlap on the diagonal of a snake meet. -/
theorem lt_of_no_meeting (h : meeting? found n delta other e = none) (hs : s ∈ found) {z : Nat}
    (hz : other.get? e (delta - s.diagonal) = some z) : s.stop + z < n := by
  have hnone := List.find?_eq_none.1 h s hs
  simpa [hz] using hnone

end Meetings

/-! ## Starts -/

namespace Front

theorem length_startsBelow (above : Nat) (front : Front) :
    (startsBelow above front).length = front.length + 1 := by
  induction front generalizing above with
  | nil => rfl
  | cons below front ih => rw [startsBelow, List.length_cons, ih, List.length_cons]

/-- Where a diagonal starts between two known ones: as far as both of them allow, and no further. -/
theorem startsBelow_getElem? {above : Nat} {front : Front} {i x : Nat}
    (h : (startsBelow above front)[i]? = some x) :
    (∀ u, (above :: front)[i]? = some u → u ≤ x) ∧ (∀ v, front[i]? = some v → v + 1 ≤ x) ∧
      ((above :: front)[i]? = some x ∨ ∃ v, front[i]? = some v ∧ x = v + 1) := by
  induction front generalizing above i with
  | nil =>
    cases i with
    | zero =>
      cases h
      simp
    | succ i => simp [startsBelow] at h
  | cons below front ih =>
    cases i with
    | zero =>
      have hx : (if below < above then above else below + 1) = x := Option.some.inj h
      by_cases hlt : below < above
      · rw [if_pos hlt] at hx
        subst hx
        simp
        omega
      · rw [if_neg hlt] at hx
        subst hx
        simp
        omega
    | succ i => exact ih h

theorem length_starts {front : Front} : front.starts.length = front.length + 1 := by
  cases front with
  | nil => rfl
  | cons first front => rw [starts, List.length_cons, length_startsBelow, List.length_cons]

/-- Where the diagonals start after one more edit. -/
theorem starts_getElem? {front : Front} (hne : front ≠ []) {i x : Nat}
    (h : front.starts[i]? = some x) :
    (∀ j u, i = j + 1 → front[j]? = some u → u ≤ x) ∧ (∀ v, front[i]? = some v → v + 1 ≤ x) ∧
      ((∃ j, i = j + 1 ∧ front[j]? = some x) ∨ ∃ v, front[i]? = some v ∧ x = v + 1) := by
  cases front with
  | nil => exact absurd rfl hne
  | cons first front =>
    cases i with
    | zero =>
      obtain rfl : first + 1 = x := Option.some.inj h
      simp
    | succ i =>
      obtain ⟨habove, hbelow, hone⟩ := startsBelow_getElem? h
      refine ⟨?_, hbelow, ?_⟩
      · intro j u hj hu
        obtain rfl : i = j := by omega
        exact habove u hu
      · rcases hone with h | h
        · exact .inl ⟨i, rfl, h⟩
        · exact .inr h

end Front

section Entering

variable {front : Front} (h : IsFront old new d front) {i : Nat} (hx : front.starts[i]? = some x)

include h hx

/-- Where a diagonal starts after one more edit, a path can enter it. -/
theorem IsFront.exists_entered :
    ∃ y : Nat, (x : Int) - y = ((d + 1 : Nat) : Int) - 2 * i ∧ IsEntered old new (d + 1) x y := by
  obtain ⟨-, -, hone⟩ := Front.starts_getElem? h.ne_nil hx
  rcases hone with ⟨j, rfl, hj⟩ | ⟨v, hv, rfl⟩
  · obtain ⟨y, hy, hpath⟩ := (h.furthest j x hj).reached
    exact ⟨y + 1, by omega, .insert hpath⟩
  · obtain ⟨y, hy, hpath⟩ := (h.furthest i v hv).reached
    exact ⟨y, by omega, .delete hpath⟩

/-- No path enters the diagonal further on. -/
theorem IsFront.le_of_entered {x' y' : Nat} (hentered : IsEntered old new (d + 1) x' y')
    (hk : (x' : Int) - y' = ((d + 1 : Nat) : Int) - 2 * i) : x' ≤ x := by
  obtain ⟨habove, hbelow, -⟩ := Front.starts_getElem? h.ne_nil hx
  cases hentered with
  | delete hpath =>
    -- the path before the deletion is on the diagonal below
    obtain ⟨v, hv, hle⟩ := h.exists_getElem? hpath (i := i) (by omega)
    have hstart := hbelow v hv
    omega
  | insert hpath =>
    -- the path before the insertion is on the diagonal above
    have hbound := hpath.diagonal_le
    obtain ⟨j, rfl⟩ : ∃ j, i = j + 1 := ⟨i - 1, by omega⟩
    obtain ⟨u, hu, hle⟩ := h.exists_getElem? hpath (i := j) (by omega)
    have hstart := habove j u rfl hu
    omega

end Entering

/-- The diagonals start after one more edit where paths can enter them, and as far as that. -/
theorem IsKnown.starts {front : Front} (h : IsKnown old new d front) {i : Nat}
    (hx : front.starts[i]? = some x) :
    (∃ y : Nat, (x : Int) - y = d - 2 * i ∧ IsEntered old new d x y) ∧
      ∀ x' y' : Nat, IsEntered old new d x' y' → (x' : Int) - y' = d - 2 * i → x' ≤ x := by
  cases h with
  | first =>
    -- without an edit there is the starting point only
    cases i with
    | zero =>
      cases hx
      refine ⟨⟨0, rfl, .start⟩, ?_⟩
      intro x' y' hentered _
      cases hentered
      exact Nat.le_refl 0
    | succ i => simp [Front.starts] at hx
  | next hfront => exact ⟨hfront.exists_entered hx, fun _ _ => hfront.le_of_entered hx⟩

/-! ## Snakes -/

/-- A snake on a diagonal: a path with `d` edits enters it where it starts, and no path with `d` edits
    comes further than to its end. -/
structure IsSnake (old new : List α) (d : Nat) (k : Int) (s : Snake) : Prop where
  diagonal : s.diagonal = k
  entered : ∃ y : Nat, (s.start : Int) - y = k ∧ IsEntered old new d s.start y
  furthest : IsFurthest old new d k s.stop

variable {s : Snake}

/-! ## Cuts in range -/

/-- Lists whose lengths are both even or both odd are an even number of edits apart. -/
theorem IsApart.of_even (hfar : IsApart old new (2 * d - 1))
    (heven : ((old.length : Int) - new.length) % 2 = 0) : IsApart old new (2 * d) := by
  cases d with
  | zero => exact .zero
  | succ d => exact hfar.succ_of_parity (by omega)

/-- A path that is at most about half of a shortest one does not leave the lists, if it ends on a
    diagonal that paths from the other side reach with so many edits. -/
theorem Path.in_range {c : Nat} (hpath : Path old new 0 0 d x y)
    (hfar : IsApart old new (2 * d - c))
    (hbelow : (c : Int) - d ≤ old.length - new.length - (x - y))
    (habove : (old.length : Int) - new.length - (x - y) ≤ d - c) :
    x ≤ old.length ∧ y ≤ new.length := by
  rcases hpath.exists_exit (Nat.zero_le _) (Nat.zero_le _) with h |
    ⟨d₁, x₁, y₁, hexit, hx₁, hy₁, hx, hy, hedge, hsum⟩
  · exact h
  · -- from where it leaves the lists, edits would have led to their ends sooner
    have hwhole := hfar _ (hexit.exists_edits hx₁ hy₁)
    omega

/-- The start of a snake of the search from the starts is a proper cut, if no path through both lists
    is much shorter than twice what leads there. -/
theorem IsSnake.isProperCut (hs : IsSnake old new d k s) (hd : 1 ≤ d) (hold : old ≠ [])
    (hnew : new ≠ []) (hheads : DifferAtStart old new)
    (hfar : IsApart old new (2 * d - 1))
    (hbelow : 1 - (d : Int) ≤ old.length - new.length - k)
    (habove : (old.length : Int) - new.length - k ≤ d - 1) :
    IsProperCut old new s.start ((s.start : Int) - s.diagonal).toNat := by
  obtain ⟨y, hy, hentered⟩ := hs.entered
  have hpath := hentered.path
  obtain ⟨hx, hyrange⟩ := hpath.in_range hfar (by omega) (by omega)
  have hsum := hpath.edits_le
  have htoNat : ((s.start : Int) - s.diagonal).toNat = y := by
    rw [hs.diagonal]
    omega
  rw [htoNat]
  refine ⟨hx, hyrange, by omega, ?_⟩
  by_contra hwhole
  obtain ⟨hxend, hyend⟩ : s.start = old.length ∧ y = new.length := by omega
  rw [hxend, hyend] at hpath
  have hshort := hfar d hpath
  have holdpos := List.length_pos_iff.2 hold
  have hnewpos := List.length_pos_iff.2 hnew
  -- a single edit behind the starts, at which the items differ, does not lead to both ends
  obtain rfl : d = 1 := by omega
  rw [hxend, hyend] at hentered
  generalize hn : old.length = n at *
  generalize hm : new.length = m at *
  cases hentered with
  | @delete _ x _ hbefore =>
    have hstart := hbefore.eq_of_no_edit hheads rfl
    omega
  | @insert _ _ y hbefore =>
    have hstart := hbefore.eq_of_no_edit hheads rfl
    omega

/-- The end of a snake of the search from the ends is a proper cut, if no path through both lists is
    shorter than twice what leads there. -/
theorem IsSnake.isProperCut_reverse (hs : IsSnake old.reverse new.reverse d k s) (hd : 1 ≤ d)
    (hfar : IsApart old new (2 * d))
    (hbelow : -(d : Int) ≤ old.length - new.length - k)
    (habove : (old.length : Int) - new.length - k ≤ d) :
    IsProperCut old new (old.length - s.stop)
      (new.length - ((s.stop : Int) - s.diagonal).toNat) := by
  obtain ⟨y, hy, hpath⟩ := hs.furthest.reached
  obtain ⟨hx, hyrange⟩ := hpath.in_range (c := 0) hfar.reverse
    (by simp only [List.length_reverse]; omega) (by simp only [List.length_reverse]; omega)
  have hsum := hpath.edits_le
  have htoNat : ((s.stop : Int) - s.diagonal).toNat = y := by
    rw [hs.diagonal]
    omega
  rw [List.length_reverse] at hx hyrange
  rw [htoNat]
  refine ⟨Nat.sub_le _ _, Nat.sub_le _ _, ?_, by omega⟩
  by_contra hwhole
  obtain ⟨hxend, hyend⟩ : s.stop = old.length ∧ y = new.length := by omega
  rw [hxend, hyend] at hpath
  have hshort := hfar.reverse d (by simpa using hpath)
  omega

/-! ## Runs of equal items -/

variable [DecidableEq α]

/-- The items of a run are kept. -/
theorem Path.run {x₀ y₀ : Nat} (h : Path old new x₀ y₀ d x y) (fuel : Nat) :
    Path old new x₀ y₀ d (x + runLength old.toArray new.toArray fuel x y)
      (y + runLength old.toArray new.toArray fuel x y) := by
  induction fuel generalizing x y with
  | zero => exact h
  | succ fuel ih =>
    rw [runLength]
    split
    · next u v hold hnew =>
      by_cases heq : u = v
      · subst heq
        rw [if_pos rfl]
        have hrest := ih (.keep h (by simpa using hold) (by simpa using hnew))
        rwa [Nat.add_right_comm x, Nat.add_right_comm y] at hrest
      · rw [if_neg heq]
        exact h
    · exact h

/-- A run ends where the items differ, or where a list ends, or after so many items as it may have. -/
theorem runLength_ends (old new : List α) (fuel x y : Nat) :
    runLength old.toArray new.toArray fuel x y = fuel ∨
      ∀ u, old[x + runLength old.toArray new.toArray fuel x y]? = some u →
        new[y + runLength old.toArray new.toArray fuel x y]? ≠ some u := by
  induction fuel generalizing x y with
  | zero => exact .inl rfl
  | succ fuel ih =>
    rw [runLength]
    split
    · next u v hold hnew =>
      by_cases heq : u = v
      · rw [if_pos heq]
        rcases ih (x + 1) (y + 1) with h | h
        · exact .inl (by rw [h])
        · right
          rwa [Nat.add_right_comm x, Nat.add_right_comm y] at h
      · rw [if_neg heq]
        right
        intro w hw hw'
        simp only [List.getElem?_toArray, Nat.add_zero] at hold hnew hw hw'
        rw [hold] at hw
        rw [hnew] at hw'
        exact heq ((Option.some.inj hw).trans (Option.some.inj hw').symm)
    · next hnone =>
      right
      intro w hw hw'
      exact hnone w w (by simpa using hw) (by simpa using hw')

/-! ## One more edit -/

theorem length_snakes {front : Front} (h : IsKnown old new d front) :
    (snakes old.toArray new.toArray d front).length = d + 1 := by
  rw [snakes, List.length_mapIdx, Front.length_starts]
  cases h with
  | first => rfl
  | next hfront => rw [hfront.length]

/-- **Snakes come as far as paths come.** -/
theorem isSnake_of_getElem? {front : Front} (h : IsKnown old new d front) {i : Nat} {s : Snake}
    (hs : (snakes old.toArray new.toArray d front)[i]? = some s) :
    IsSnake old new d ((d : Int) - 2 * i) s := by
  rw [snakes, List.getElem?_mapIdx] at hs
  obtain ⟨x, hx, rfl⟩ := Option.map_eq_some_iff.1 hs
  obtain ⟨⟨y, hy, hentered⟩, hfirst⟩ := h.starts hx
  have hy' : ((x : Int) - (d - 2 * i)).toNat = y := by omega
  refine ⟨rfl, ⟨y, hy, hentered⟩, ?_, ?_⟩
  · dsimp only
    rw [hy']
    have hrun := hentered.path.run old.toArray.size
    exact ⟨_, by omega, hrun⟩
  · dsimp only
    rw [hy']
    intro x' y' hpath hk
    obtain ⟨x₁, y₁, r, hentered₁, rfl, rfl, hkept⟩ := hpath.exists_entered
    have hle := hfirst x₁ y₁ hentered₁ (by omega)
    by_contra hfar
    -- a path that comes further keeps the items at which the run ends
    obtain ⟨u, hold, hnew⟩ := hkept
      (x + runLength old.toArray new.toArray old.toArray.size x y - x₁) (by omega)
    rw [Nat.add_sub_cancel' (by omega)] at hold
    rcases runLength_ends old new old.toArray.size x y with hall | hends
    · have hlt := (List.getElem?_eq_some_iff.1 hold).1
      rw [hall, List.size_toArray] at hlt
      omega
    · apply hends u hold
      rw [← hnew]
      congr 1
      omega

/-- **With one more edit the front is that of one edit more.** -/
theorem isFront_frontOf {front : Front} (h : IsKnown old new d front) :
    IsFront old new d (frontOf (snakes old.toArray new.toArray d front)) := by
  refine ⟨?_, ?_⟩
  · rw [frontOf, List.length_map, length_snakes h]
  · intro i x hx
    rw [frontOf, List.getElem?_map] at hx
    obtain ⟨s, hs, rfl⟩ := Option.map_eq_some_iff.1 hx
    exact (isSnake_of_getElem? h hs).furthest

/-- There is a snake on the diagonal of every path, and it comes as far. -/
theorem exists_snake {front : Front} (h : IsKnown old new d front)
    (hpath : Path old new 0 0 d x y) :
    ∃ s ∈ snakes old.toArray new.toArray d front, s.diagonal = (x : Int) - y ∧ x ≤ s.stop := by
  have hbound := hpath.diagonal_le
  have hparity := hpath.parity
  have hlt : (((d : Int) - (x - y)) / 2).toNat <
      (snakes old.toArray new.toArray d front).length := by
    rw [length_snakes h]
    omega
  have hs := List.getElem?_eq_getElem hlt
  have hsnake := isSnake_of_getElem? h hs
  refine ⟨_, List.mem_of_getElem? hs, ?_, ?_⟩
  · rw [hsnake.diagonal]
    omega
  · exact hsnake.furthest.furthest x y hpath (by omega)

/-- Every snake of a search is one on some diagonal. -/
theorem isSnake_of_mem {front : Front} (h : IsKnown old new d front) {s : Snake}
    (hs : s ∈ snakes old.toArray new.toArray d front) :
    ((d : Int) - s.diagonal) % 2 = 0 ∧ IsSnake old new d s.diagonal s := by
  obtain ⟨i, hi⟩ := List.mem_iff_getElem?.1 hs
  have hsnake := isSnake_of_getElem? h hi
  have hdiagonal := hsnake.diagonal
  rw [← hdiagonal] at hsnake
  exact ⟨by omega, hsnake⟩

/-! ## The search -/

section Search

variable {forward backward front : Front}

/-- If the search from the starts does not meet the one from the ends, no path through both lists has
    as many edits as the two together. -/
theorem not_path_of_no_meeting {e : Nat} (hforward : IsKnown old new (e + 1) forward)
    (hbackward : IsFront old.reverse new.reverse e backward)
    (hnone : meeting? (snakes old.toArray new.toArray (e + 1) forward) old.length
      ((old.length : Int) - new.length) backward e = none) :
    ¬ Path old new 0 0 (2 * e + 1) old.length new.length := by
  intro hpath
  obtain ⟨p, q, hfirst, hsecond⟩ := hpath.exists_cut (e := e + 1) (by omega)
  obtain ⟨hp, hq⟩ := hsecond.start_le
  have hturned := hsecond.reverse (Nat.le_refl _) (Nat.le_refl _)
  rw [Nat.sub_self, Nat.sub_self, show 2 * e + 1 - (e + 1) = e by omega] at hturned
  -- the one comes to the point between the halves, and so does the other
  obtain ⟨s, hs, hdiagonal, hreach⟩ := exists_snake hforward hfirst
  obtain ⟨z, hz, hreach'⟩ := hbackward.exists_get? hturned
  have hsame : ((old.length - p : Nat) : Int) - (new.length - q : Nat) =
      old.length - new.length - s.diagonal := by omega
  rw [hsame] at hz
  have hlt := lt_of_no_meeting hnone hs hz
  omega

/-- If both searches have come so far and do not meet, the lists are further apart. -/
theorem isApart_of_no_meeting (hforward : IsKnown old new d forward)
    (hbackward : IsKnown old.reverse new.reverse d backward)
    (hodd : ((old.length : Int) - new.length) % 2 ≠ 0) (hfar : IsApart old new (2 * d - 1))
    (hnone : meeting? (snakes old.toArray new.toArray d forward) old.length
      ((old.length : Int) - new.length) backward ((d : Int) - 1) = none) :
    IsApart old new (2 * (d + 1) - 1) := by
  cases hbackward with
  | first =>
    -- nothing is tried yet, but no path of an odd number of edits is without one
    exact hfar.succ_of_parity (by omega)
  | @next e _ hfront =>
    have hedits : ((e + 1 : Nat) : Int) - 1 = e := by omega
    rw [hedits] at hnone
    have hnot := not_path_of_no_meeting hforward hfront hnone
    have hfar' : IsApart old new (2 * e + 1) := hfar
    exact (hfar'.succ_of_not_path hnot).succ_of_parity (by omega)

/-- If the search from the ends does not meet the one from the starts, no path through both lists has
    as many edits as the two together. -/
theorem not_path_of_no_meeting_reverse (hbackward : IsKnown old.reverse new.reverse d backward)
    (hfront : IsFront old new d front)
    (hnone : meeting? (snakes old.reverse.toArray new.reverse.toArray d backward) old.length
      ((old.length : Int) - new.length) front d = none) :
    ¬ Path old new 0 0 (2 * d) old.length new.length := by
  intro hpath
  obtain ⟨p, q, hfirst, hsecond⟩ := hpath.exists_cut (e := d) (by omega)
  obtain ⟨hp, hq⟩ := hsecond.start_le
  have hturned := hsecond.reverse (Nat.le_refl _) (Nat.le_refl _)
  rw [Nat.sub_self, Nat.sub_self, show 2 * d - d = d by omega] at hturned
  obtain ⟨s, hs, hdiagonal, hreach⟩ := exists_snake hbackward hturned
  obtain ⟨z, hz, hreach'⟩ := hfront.exists_get? hfirst
  have hsame : (p : Int) - q = old.length - new.length - s.diagonal := by omega
  rw [hsame] at hz
  have hlt := lt_of_no_meeting hnone hs hz
  omega

section Meeting

variable (hforward : IsKnown old new d forward)
  (hbackward : IsKnown old.reverse new.reverse d backward) {s : Snake}

include hforward hbackward

/-- Where the search from the starts meets the other one is a proper cut. -/
theorem isProperCut_of_meeting (hold : old ≠ []) (hnew : new ≠ [])
    (hheads : DifferAtStart old new)
    (hodd : ((old.length : Int) - new.length) % 2 ≠ 0)
    (hfar : IsApart old new (2 * d - 1))
    (hmeeting : meeting? (snakes old.toArray new.toArray d forward) old.length
      ((old.length : Int) - new.length) backward ((d : Int) - 1) = some s) :
    IsProperCut old new s.start ((s.start : Int) - s.diagonal).toNat := by
  obtain ⟨hs, z, hz, -⟩ := mem_of_meeting hmeeting
  obtain ⟨hparity, hsnake⟩ := isSnake_of_mem hforward hs
  cases hbackward with
  | first => simp [Front.get?] at hz
  | @next e _ hfront =>
    have hedits : ((e + 1 : Nat) : Int) - 1 = e := by omega
    rw [hedits] at hz
    obtain ⟨hbelow, habove, -⟩ := hfront.isFurthest (by omega) hz
    exact hsnake.isProperCut (by omega) hold hnew hheads hfar (by omega) (by omega)

/-- Where the search from the ends meets the other one is a proper cut. -/
theorem isProperCut_of_meeting_reverse (hold : old ≠ [])
    (hheads : DifferAtStart old new)
    (hlasts : DifferAtStart old.reverse new.reverse)
    (heven : ((old.length : Int) - new.length) % 2 = 0)
    (hfar : IsApart old new (2 * d))
    (hmeeting : meeting? (snakes old.reverse.toArray new.reverse.toArray d backward) old.length
      ((old.length : Int) - new.length) (frontOf (snakes old.toArray new.toArray d forward)) d =
        some s) :
    IsProperCut old new (old.length - s.stop)
      (new.length - ((s.stop : Int) - s.diagonal).toNat) := by
  obtain ⟨hs, z, hz, hreach⟩ := mem_of_meeting hmeeting
  obtain ⟨hparity, hsnake⟩ := isSnake_of_mem hbackward hs
  obtain ⟨hbelow, habove, hfurthest⟩ := (isFront_frontOf hforward).isFurthest (by omega) hz
  have hd : 1 ≤ d := by
    by_contra hzero
    -- without an edit both searches stay where they start, and do not meet
    obtain ⟨y, -, hpath⟩ := hsnake.furthest.reached
    obtain ⟨y', -, hpath'⟩ := hfurthest.reached
    have hstop := hpath.eq_of_no_edit hlasts (by omega)
    have hstop' := hpath'.eq_of_no_edit hheads (by omega)
    have hpos := List.length_pos_iff.2 hold
    omega
  exact hsnake.isProperCut_reverse hd hfar (by omega) (by omega)

end Meeting

/-- **The searches meet at a proper cut**, as long as no path through both lists is shorter than what
    they have tried; and they meet before they have tried all. -/
theorem exists_searchMiddle (hold : old ≠ []) (hnew : new ≠ []) (hheads : DifferAtStart old new)
    (hlasts : DifferAtStart old.reverse new.reverse) {fuel : Nat}
    (hforward : IsKnown old new d forward)
    (hbackward : IsKnown old.reverse new.reverse d backward) (hfar : IsApart old new (2 * d - 1))
    (hfuel : old.length + new.length + 1 < 2 * (d + fuel)) :
    ∃ x y, searchMiddle old.toArray new.toArray old.reverse.toArray new.reverse.toArray fuel d
      forward backward = some (x, y) ∧ IsProperCut old new x y := by
  induction fuel generalizing d forward backward with
  | zero =>
    have hall := hfar.le
    omega
  | succ fuel ih =>
    have hnext := IsKnown.next (isFront_frontOf hforward)
    have hnext' := IsKnown.next (isFront_frontOf hbackward)
    rw [searchMiddle]
    simp only [List.size_toArray]
    by_cases heven : ((old.length : Int) - new.length) % 2 = 0
    · rw [if_pos heven, if_pos heven]
      dsimp only
      cases hmeeting : meeting? (snakes old.reverse.toArray new.reverse.toArray d backward)
          old.length ((old.length : Int) - new.length)
          (frontOf (snakes old.toArray new.toArray d forward)) d with
      | some s =>
        exact ⟨_, _, rfl, isProperCut_of_meeting_reverse hforward hbackward hold hheads hlasts heven
          (hfar.of_even heven) hmeeting⟩
      | none =>
        have hnot := not_path_of_no_meeting_reverse hbackward (isFront_frontOf hforward) hmeeting
        exact ih hnext hnext' ((hfar.of_even heven).succ_of_not_path hnot) (by omega)
    · rw [if_neg heven, if_neg heven]
      cases hmeeting : meeting? (snakes old.toArray new.toArray d forward) old.length
          ((old.length : Int) - new.length) backward ((d : Int) - 1) with
      | some s =>
        exact ⟨_, _, rfl, isProperCut_of_meeting hforward hbackward hold hnew hheads heven hfar
          hmeeting⟩
      | none =>
        exact ih hnext hnext' (isApart_of_no_meeting hforward hbackward heven hfar hmeeting) (by omega)

end Search

/-- **There is a middle snake**, and it is a proper cut, of any two lists that differ at their starts
    and at their ends. -/
theorem exists_middle (hold : old ≠ []) (hnew : new ≠ [])
    (hheads : DifferAtStart old new)
    (hlasts : DifferAtStart old.reverse new.reverse) :
    ∃ x y, middle? old new = some (x, y) ∧ IsProperCut old new x y := by
  unfold middle?
  exact exists_searchMiddle hold hnew hheads hlasts .first .first .zero (by omega)

end ListeningCharts.Diff
