/-! # Middle snake

Where a shortest edit script of two lists can be cut in two. Two searches run towards each other, one
from the starts of the lists, one from their ends. After `d` edits a search knows for each diagonal
`d, d - 2, …, -d` how far into the first list it has come; diagonal `k` holds the points whose
position in the first list is `k` more than that in the second. The lists can be cut where the
searches meet.
-/

namespace ListeningCharts.Diff

/-- How far a search has come after `d` edits, on the diagonals `d, d - 2, …, -d`. -/
abbrev Front := List Nat

namespace Front

/-- How far the search has come on a diagonal; none if it has not reached the diagonal. -/
def get? (front : Front) (d k : Int) : Option Nat :=
  if -d ≤ k ∧ k ≤ d then front[((d - k) / 2).toNat]? else none

/-- Where the inner diagonals and the last one start after one more edit: by an insertion from the
diagonal above if that has come further, else by a deletion from the one below. -/
def startsBelow : Nat → Front → List Nat
  | above, [] => [above]
  | above, below :: front =>
    (if below < above then above else below + 1) :: startsBelow below front

/-- Where the diagonals start after one more edit. -/
def starts : Front → List Nat
  | [] => [0]
  | first :: front => (first + 1) :: startsBelow first front

end Front

/-- A stretch of equal items on a diagonal: where it starts and ends in the first list. -/
structure Snake where
  diagonal : Int
  start : Nat
  stop : Nat
  deriving DecidableEq, Repr

/-- How many items of two arrays are equal from two positions on, `fuel` at most. -/
def runLength {α : Type} [DecidableEq α] (a b : Array α) : Nat → Nat → Nat → Nat
  | 0, _, _ => 0
  | fuel + 1, x, y =>
    match a[x]?, b[y]? with
    | some u, some v => if u = v then runLength a b fuel (x + 1) (y + 1) + 1 else 0
    | _, _ => 0

/-- The snakes after `d` edits, given the front one edit before. -/
def snakes {α : Type} [DecidableEq α] (a b : Array α) (d : Nat) (front : Front) : List Snake :=
  front.starts.mapIdx fun i x =>
    let k : Int := (d : Int) - 2 * i
    { diagonal := k, start := x, stop := x + runLength a b a.size x ((x : Int) - k).toNat }

/-- The front that snakes make. -/
def frontOf (found : List Snake) : Front := found.map Snake.stop

/-- The first snake that meets the search from the other side, `d` edits deep. -/
def meeting? (found : List Snake) (n : Nat) (delta : Int) (other : Front) (d : Int) : Option Snake :=
  found.find? fun s =>
    match other.get? d (delta - s.diagonal) with
    | some x => n ≤ s.stop + x
    | none => false

/-- Searches from both sides, with `fuel` edits left to each. -/
def searchMiddle {α : Type} [DecidableEq α] (a b a' b' : Array α) :
    Nat → Nat → Front → Front → Option (Nat × Nat)
  | 0, _, _, _ => none
  | fuel + 1, d, forward, backward =>
    let n := a.size
    let delta : Int := (a.size : Int) - b.size
    let found := snakes a b d forward
    match if delta % 2 = 0 then none else meeting? found n delta backward ((d : Int) - 1) with
    | some s => some (s.start, ((s.start : Int) - s.diagonal).toNat)
    | none =>
      let found' := snakes a' b' d backward
      match if delta % 2 = 0 then meeting? found' n delta (frontOf found) d else none with
      | some s => some (n - s.stop, b.size - ((s.stop : Int) - s.diagonal).toNat)
      | none => searchMiddle a b a' b' fuel (d + 1) (frontOf found) (frontOf found')

/-- Where a snake in the middle of a shortest script for two lists starts. -/
def middle? {α : Type} [DecidableEq α] (old new : List α) : Option (Nat × Nat) :=
  searchMiddle old.toArray new.toArray old.reverse.toArray new.reverse.toArray
    ((old.length + new.length + 1) / 2 + 1) 0 [] []

end ListeningCharts.Diff
