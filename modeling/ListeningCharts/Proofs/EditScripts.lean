import ListeningCharts.Diff.Compact

/-! # Edit scripts

    Making a script compact moves its stretches and gathers them, and leaves alone what the script
    makes of what.

    * **Moves**: a stretch that goes on its way over others is the same where it arrives as where it
      started (`isMove_moveDelete`, `isMove_moveInsert`). The way up is the way down in the script of
      the reversed lists (`IsMove.upAndDown`).
    * **Compacting**: a script and its compact form make the same list of the same list
      (`same_compact`).
-/

namespace ListeningCharts.Diff

variable {α : Type} {s t : Script α}

/-! ## The two lists of a script -/

@[simp] theorem Edit.turn_turn (e : Edit α) : e.turn.turn = e := by
  cases e <;> simp [Edit.turn]

namespace Script

@[simp] theorem before_kept (items : List α) : (kept items).before = items := by
  unfold kept
  cases items <;> simp [Edit.before]

@[simp] theorem after_kept (items : List α) : (kept items).after = items := by
  unfold kept
  cases items <;> simp [Edit.after]

@[simp] theorem before_replacing (deleted inserted : List α) :
    (replacing deleted inserted).before = deleted := by
  unfold replacing
  cases deleted <;> cases inserted <;> simp [Edit.before]

@[simp] theorem after_replacing (deleted inserted : List α) :
    (replacing deleted inserted).after = inserted := by
  unfold replacing
  cases deleted <;> cases inserted <;> simp [Edit.after]

/-- Two scripts make the same list of the same list. -/
structure Same (s t : Script α) : Prop where
  before : s.before = t.before
  after : s.after = t.after

theorem Same.refl (s : Script α) : s.Same s := ⟨rfl, rfl⟩

theorem Same.trans {u : Script α} (h : s.Same t) (h' : t.Same u) : s.Same u :=
  ⟨h.before.trans h'.before, h.after.trans h'.after⟩

/-! ## Turned scripts -/

@[simp] theorem turn_nil : turn ([] : Script α) = [] := rfl

@[simp] theorem turn_cons (e : Edit α) (s : Script α) : turn (e :: s) = s.turn ++ [e.turn] := by
  simp [turn]

@[simp] theorem turn_append (s t : Script α) : (s ++ t).turn = t.turn ++ s.turn := by
  simp [turn]

@[simp] theorem turn_turn (s : Script α) : s.turn.turn = s := by
  induction s with
  | nil => rfl
  | cons e s ih => simp [ih]

@[simp] theorem before_turn (s : Script α) : s.turn.before = s.before.reverse := by
  induction s with
  | nil => rfl
  | cons e s ih => cases e <;> simp [ih, Edit.turn, Edit.before]

@[simp] theorem after_turn (s : Script α) : s.turn.after = s.after.reverse := by
  induction s with
  | nil => rfl
  | cons e s ih => cases e <;> simp [ih, Edit.turn, Edit.after]

theorem Same.turn (h : s.Same t) : s.turn.Same t.turn :=
  ⟨by simp [h.before], by simp [h.after]⟩

@[simp] theorem before_prependKept (items : List α) (s : Script α) :
    (prependKept items s).before = items ++ s.before := by
  unfold prependKept
  split <;> simp [Edit.before]

@[simp] theorem after_prependKept (items : List α) (s : Script α) :
    (prependKept items s).after = items ++ s.after := by
  unfold prependKept
  split <;> simp [Edit.after]

end Script

/-! ## Moves -/

/-- The script with a stretch where it has come to on its way. -/
def Moved.script (edit : List α → Edit α) (m : Moved α) : Script α :=
  m.behind.turn ++ edit m.items :: m.ahead

/-- A way to move stretches of a kind changes nothing but their places. -/
def IsMove (edit : List α → Edit α) (move : List α → Script α → Script α → Moved α) : Prop :=
  ∀ items ahead behind,
    ((move items ahead behind).script edit).Same (behind.turn ++ edit items :: ahead)

/-- Deleted items are the same wherever they stand among inserted ones. -/
theorem isMove_moveDelete : IsMove (α := α) .delete moveDelete := by
  intro items ahead behind
  fun_induction moveDelete items ahead behind with
  | case1 => exact .refl _
  | case2 items behind ahead ih => exact ih.trans ⟨by simp [Edit.before], by simp [Edit.after]⟩
  | case3 => exact .refl _
  | case4 items behind more ahead ih =>
    exact ih.trans ⟨by simp [Edit.before], by simp [Edit.after]⟩
  | case5 items behind other ahead ih =>
    exact ih.trans ⟨by simp [Edit.before, Edit.turn], by simp [Edit.after, Edit.turn]⟩

variable [DecidableEq α]

/-- Inserted items that slide over kept ones leave the list as it is. -/
theorem slide_eq (kept items : List α) :
    kept = (slide kept items).2.2 ++ (slide kept items).1 ∧
      items ++ kept = (slide kept items).2.2 ++ (slide kept items).2.1 ++ (slide kept items).1 := by
  fun_induction slide kept items with
  | case1 i kept items kept' items' passed h ih =>
    -- the item that is passed was the first inserted one, and becomes the last
    obtain ⟨hkept, hitems⟩ := ih
    rw [h] at hkept hitems
    simp only [List.append_assoc, List.cons_append, List.nil_append] at hkept hitems ⊢
    exact ⟨by rw [← hkept], by rw [hitems]⟩
  | case2 => simp
  | case3 => simp

/-- A slide leaves behind the items that it passed. -/
theorem same_slide (items kept : List α) (ahead behind : Script α) :
    Script.Same ((Script.prependKept (slide kept items).2.2.reverse behind).turn ++
        .insert (slide kept items).2.1 :: .keep (slide kept items).1 :: ahead)
      (behind.turn ++ .insert items :: .keep kept :: ahead) := by
  obtain ⟨hkept, hitems⟩ := slide_eq kept items
  constructor
  · simp only [Script.before_append, Script.before_turn, Script.before_prependKept,
      Script.before_cons, Edit.before, List.reverse_append, List.reverse_reverse, List.nil_append,
      List.append_assoc]
    rw [← List.append_assoc (slide kept items).2.2, ← hkept]
  · simp only [Script.after_append, Script.after_turn, Script.after_prependKept,
      Script.after_cons, Edit.after, List.reverse_append, List.reverse_reverse, List.append_assoc]
    rw [← List.append_assoc items, hitems]
    simp only [List.append_assoc]

/-- Inserted items are the same wherever they stand among deleted ones, and where they slide to. -/
theorem isMove_moveInsert : IsMove (α := α) .insert moveInsert := by
  intro items ahead behind
  fun_induction moveInsert items ahead behind with
  | case1 => exact .refl _
  | case2 items kept ahead behind items' passed h ih =>
    have hslide := same_slide items kept ahead behind
    rw [h] at hslide
    exact (ih.trans ⟨by simp [Edit.before], by simp [Edit.after]⟩).trans hslide
  | case3 items kept ahead behind kept' items' passed _ h =>
    have hslide := same_slide items kept ahead behind
    rw [h] at hslide
    exact hslide
  | case4 items behind other ahead ih =>
    exact ih.trans ⟨by simp [Edit.before, Edit.turn], by simp [Edit.after, Edit.turn]⟩
  | case5 items behind more ahead ih =>
    exact ih.trans ⟨by simp [Edit.before], by simp [Edit.after]⟩

/-! ## Compacting -/

omit [DecidableEq α] in
/-- A stretch that is moved up and then down is a stretch that is moved. -/
theorem IsMove.upAndDown {edit : List α → Edit α}
    {move : List α → Script α → Script α → Moved α} (hmove : IsMove edit move)
    (hturn : ∀ items, (edit items).turn = edit items.reverse) :
    IsMove edit (Moved.upAndDown move) := by
  intro items ahead behind
  have hback : ∀ (s t : Script α) (items : List α),
      (s.turn ++ edit items :: t).turn = t.turn ++ edit items.reverse :: s := by
    intro s t items
    simp [hturn]
  -- moving up is moving down in the script of the reversed lists
  have hup := (hmove items.reverse behind ahead).turn
  have hdown := hmove (move items.reverse behind ahead).items.reverse
    (move items.reverse behind ahead).behind (move items.reverse behind ahead).ahead
  rw [Moved.script, hback, hback, List.reverse_reverse] at hup
  exact hdown.trans hup

omit [DecidableEq α] in
theorem same_compactDeletes (behind ahead : Script α) :
    (compactDeletes behind ahead).Same (behind.turn ++ ahead) := by
  fun_induction compactDeletes behind ahead with
  | case1 behind => rw [List.append_nil]; exact .refl _
  | case2 behind items ahead m ih =>
    have hmoved := isMove_moveDelete.upAndDown (fun _ => rfl) items ahead behind
    rw [Script.turn_cons, Edit.turn, List.reverse_reverse, List.append_assoc] at ih
    exact ih.trans hmoved
  | case3 behind e ahead _ ih =>
    rw [Script.turn_cons, Edit.turn_turn, List.append_assoc] at ih
    exact ih

theorem same_compactInserts (behind ahead : Script α) :
    (compactInserts behind ahead).Same (behind.turn ++ ahead) := by
  fun_induction compactInserts behind ahead with
  | case1 behind => rw [List.append_nil]; exact .refl _
  | case2 behind items ahead m ih =>
    have hmoved := isMove_moveInsert.upAndDown (fun _ => rfl) items ahead behind
    rw [Script.turn_cons, Edit.turn, List.reverse_reverse, List.append_assoc] at ih
    exact ih.trans hmoved
  | case3 behind e ahead _ ih =>
    rw [Script.turn_cons, Edit.turn_turn, List.append_assoc] at ih
    exact ih

omit [DecidableEq α] in
/-- What goes and comes between two stretches that stay can be gathered, what goes first. -/
theorem before_gather (deleted inserted : List α) (s : Script α) :
    (gather deleted inserted s).before = deleted ++ s.before := by
  fun_induction gather deleted inserted s with
  | case1 => simp
  | case2 deleted inserted items s ih => simp [ih, Edit.before]
  | case3 deleted inserted items s ih => simp [ih, Edit.before]
  | case4 deleted inserted items s ih => simp [ih, Edit.before]

omit [DecidableEq α] in
theorem after_gather (deleted inserted : List α) (s : Script α) :
    (gather deleted inserted s).after = inserted ++ s.after := by
  fun_induction gather deleted inserted s with
  | case1 => simp
  | case2 deleted inserted items s ih => simp [ih, Edit.after]
  | case3 deleted inserted items s ih => simp [ih, Edit.after]
  | case4 deleted inserted items s ih => simp [ih, Edit.after]

/-- **Compacting keeps the two lists** of a script. -/
theorem same_compact (s : Script α) : (compact s).Same s := by
  have hdeletes := same_compactDeletes [] s
  have hinserts := same_compactInserts [] (compactDeletes [] s)
  have hboth := hinserts.trans hdeletes
  unfold compact
  constructor
  · rw [before_gather]
    exact hboth.before
  · rw [after_gather]
    exact hboth.after

/-- Nothing in a script that only keeps items can be moved. -/
@[simp] theorem compact_kept (items : List α) : compact (Script.kept items) = Script.kept items := by
  unfold Script.kept
  split
  · simp [compact, compactDeletes, compactInserts, gather, Script.replacing]
  · simp [compact, compactDeletes, compactInserts, gather, Script.replacing, Edit.turn]

end ListeningCharts.Diff
