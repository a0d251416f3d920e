import ListeningCharts.Diff.Script

/-! # Compact scripts

A script often has a choice: an insertion that starts with the lines that follow it can as well come
after them. Every deletion, then every insertion, is moved up as far as it goes and then down as far
as it goes, and on its way takes up its like. A deletion moves over insertions only; an insertion
moves over deletions, and over what stays as long as the result is the same.

Moving up is moving down in the script of the reversed lists, so what lies behind a
stretch is kept turned round.
-/

namespace ListeningCharts.Diff

/-! ## Turned scripts -/

namespace Edit

/-- The stretch with its items in reverse. -/
def turn {α : Type} : Edit α → Edit α
  | keep items => keep items.reverse
  | delete items => delete items.reverse
  | insert items => insert items.reverse

/-- Whether a stretch goes. -/
def isDelete {α : Type} : Edit α → Bool
  | delete _ => true
  | _ => false

/-- Whether a stretch comes. -/
def isInsert {α : Type} : Edit α → Bool
  | insert _ => true
  | _ => false

end Edit

/-- The script of the reversed lists. -/
def Script.turn {α : Type} (s : Script α) : Script α := (s.map Edit.turn).reverse

/-- The script with items that stay put in front of it. -/
def Script.prependKept {α : Type} (items : List α) (s : Script α) : Script α :=
  match items, s with
  | [], s => s
  | items, .keep more :: s => .keep (items ++ more) :: s
  | items, s => .keep items :: s

/-! ## Moving a stretch -/

/-- A stretch on its way: its items, what lies ahead, and, turned round, what lies behind. -/
structure Moved (α : Type) where
  items : List α
  ahead : Script α
  behind : Script α

/-- Moves a deletion. -/
def moveDelete {α : Type} (items : List α) : Script α → Script α → Moved α
  | [], behind => ⟨items, [], behind⟩
  | .keep [] :: ahead, behind => moveDelete items ahead behind
  | .keep kept :: ahead, behind => ⟨items, .keep kept :: ahead, behind⟩
  | .delete more :: ahead, behind => moveDelete (items ++ more) ahead behind
  | .insert other :: ahead, behind => moveDelete items ahead (.insert other.reverse :: behind)

/-- Moves inserted items over kept ones, one at a time, as long as the next kept item is the first
inserted one: the kept items that are left, the inserted items, and those left behind. -/
def slide {α : Type} [DecidableEq α] : List α → List α → List α × List α × List α
  | k :: kept, i :: items =>
    if k = i then
      let (kept, items, passed) := slide kept (items ++ [i])
      (kept, items, i :: passed)
    else (k :: kept, i :: items, [])
  | kept, items => (kept, items, [])

/-- Moves an insertion. -/
def moveInsert {α : Type} [DecidableEq α] (items : List α) : Script α → Script α → Moved α
  | [], behind => ⟨items, [], behind⟩
  | .keep kept :: ahead, behind =>
    match slide kept items with
    | ([], items, passed) => moveInsert items ahead (.prependKept passed.reverse behind)
    | (kept, items, passed) =>
      ⟨items, .keep kept :: ahead, .prependKept passed.reverse behind⟩
  | .delete other :: ahead, behind => moveInsert items ahead (.delete other.reverse :: behind)
  | .insert more :: ahead, behind => moveInsert (items ++ more) ahead behind

/-- Moves a stretch up and then down. -/
def Moved.upAndDown {α : Type} (move : List α → Script α → Script α → Moved α) (items : List α)
    (ahead behind : Script α) : Moved α :=
  let up := move items.reverse behind ahead
  move up.items.reverse up.behind up.ahead

/-! ## Counts

What lies ahead loses a stretch with every move, which is why compacting ends.
-/

section

variable {α : Type}

theorem countP_prependKept (p : Edit α → Bool) (hp : ∀ items, p (.keep items) = false)
    (items : List α) (s : Script α) : (Script.prependKept items s).countP p = s.countP p := by
  unfold Script.prependKept
  split <;> simp [hp]

theorem countP_isDelete_moveDelete (items : List α) (ahead behind : Script α) :
    (moveDelete items ahead behind).ahead.countP Edit.isDelete ≤ ahead.countP Edit.isDelete
      ∧ (moveDelete items ahead behind).behind.countP Edit.isDelete
        = behind.countP Edit.isDelete := by
  fun_induction moveDelete items ahead behind with
  | case1 => simp
  | case2 items behind ahead ih => simpa [Edit.isDelete] using ih
  | case3 => simp
  | case4 items behind more ahead ih =>
    refine ⟨?_, ih.2⟩
    rw [List.countP_cons]
    exact Nat.le_add_right_of_le ih.1
  | case5 items behind other ahead ih => simpa [Edit.isDelete] using ih

theorem countP_isInsert_moveInsert [DecidableEq α] (items : List α) (ahead behind : Script α) :
    (moveInsert items ahead behind).ahead.countP Edit.isInsert ≤ ahead.countP Edit.isInsert
      ∧ (moveInsert items ahead behind).behind.countP Edit.isInsert
        = behind.countP Edit.isInsert := by
  have hk (items : List α) (s : Script α) := countP_prependKept Edit.isInsert (fun _ => rfl) items s
  fun_induction moveInsert items ahead behind with
  | case1 => simp
  | case2 items behind kept ahead items' passed h ih =>
    refine ⟨?_, ih.2.trans (hk _ _)⟩
    rw [List.countP_cons]
    exact Nat.le_add_right_of_le ih.1
  | case3 items behind kept ahead kept' items' passed h h' =>
    exact ⟨by simp [Edit.isInsert], hk _ _⟩
  | case4 items behind other ahead ih => simpa [Edit.isInsert] using ih
  | case5 items behind more ahead ih =>
    refine ⟨?_, ih.2⟩
    rw [List.countP_cons]
    exact Nat.le_add_right_of_le ih.1

theorem countP_isDelete_upAndDown (items : List α) (ahead behind : Script α) :
    (Moved.upAndDown moveDelete items ahead behind).ahead.countP Edit.isDelete
      ≤ ahead.countP Edit.isDelete := by
  unfold Moved.upAndDown
  refine Nat.le_trans (countP_isDelete_moveDelete _ _ _).1 ?_
  exact Nat.le_of_eq (countP_isDelete_moveDelete _ _ _).2

theorem countP_isInsert_upAndDown [DecidableEq α] (items : List α) (ahead behind : Script α) :
    (Moved.upAndDown moveInsert items ahead behind).ahead.countP Edit.isInsert
      ≤ ahead.countP Edit.isInsert := by
  unfold Moved.upAndDown
  refine Nat.le_trans (countP_isInsert_moveInsert _ _ _).1 ?_
  exact Nat.le_of_eq (countP_isInsert_moveInsert _ _ _).2

end

/-! ## Compacting -/

/-- Compacts the deletions ahead, with the script behind turned round. -/
def compactDeletes {α : Type} (behind : Script α) : Script α → Script α
  | [] => behind.turn
  | .delete items :: ahead =>
    let m := Moved.upAndDown moveDelete items ahead behind
    compactDeletes (.delete m.items.reverse :: m.behind) m.ahead
  | e :: ahead => compactDeletes (e.turn :: behind) ahead
termination_by ahead => (ahead.countP Edit.isDelete, ahead.length)
decreasing_by
  · apply Prod.Lex.left
    have h := countP_isDelete_upAndDown items ahead behind
    simp only [List.countP_cons, Edit.isDelete, if_true]
    omega
  · by_cases h : e.isDelete
    · apply Prod.Lex.left
      simp [h]
    · rw [List.countP_cons_of_neg h]
      apply Prod.Lex.right
      simp

/-- Compacts the insertions ahead, with the script behind turned round. -/
def compactInserts {α : Type} [DecidableEq α] (behind : Script α) : Script α → Script α
  | [] => behind.turn
  | .insert items :: ahead =>
    let m := Moved.upAndDown moveInsert items ahead behind
    compactInserts (.insert m.items.reverse :: m.behind) m.ahead
  | e :: ahead => compactInserts (e.turn :: behind) ahead
termination_by ahead => (ahead.countP Edit.isInsert, ahead.length)
decreasing_by
  · apply Prod.Lex.left
    have h := countP_isInsert_upAndDown items ahead behind
    simp only [List.countP_cons, Edit.isInsert, if_true]
    omega
  · by_cases h : e.isInsert
    · apply Prod.Lex.left
      simp [h]
    · rw [List.countP_cons_of_neg h]
      apply Prod.Lex.right
      simp

/-- The script with what comes and goes between two stretches that stay gathered: first all that goes,
then all that comes. -/
def gather {α : Type} : (deleted inserted : List α) → Script α → Script α
  | deleted, inserted, [] => .replacing deleted inserted
  | deleted, inserted, .keep items :: s =>
    .replacing deleted inserted ++ .keep items :: gather [] [] s
  | deleted, inserted, .delete items :: s => gather (deleted ++ items) inserted s
  | deleted, inserted, .insert items :: s => gather deleted (inserted ++ items) s

/-- The compact form of a script. -/
def compact {α : Type} [DecidableEq α] (s : Script α) : Script α :=
  gather [] [] (compactInserts [] (compactDeletes [] s))

end ListeningCharts.Diff
