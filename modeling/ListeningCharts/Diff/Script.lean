/-! # Edit scripts

A script says how one list becomes another: stretches that stay, go, or come. What stays and goes is
the first list, what stays and comes is the second.
-/

namespace ListeningCharts.Diff

/-- A stretch of a script. -/
inductive Edit (α : Type) where
  | keep (items : List α)
  | delete (items : List α)
  | insert (items : List α)
  deriving DecidableEq, Repr

/-- Stretches in order. -/
abbrev Script (α : Type) := List (Edit α)

namespace Edit

/-- The items of the first list in a stretch. -/
def before {α : Type} : Edit α → List α
  | keep items => items
  | delete items => items
  | insert _ => []

/-- The items of the second list in a stretch. -/
def after {α : Type} : Edit α → List α
  | keep items => items
  | delete _ => []
  | insert items => items

/-- Whether a stretch stays. -/
def isKeep {α : Type} : Edit α → Bool
  | keep _ => true
  | _ => false

end Edit

namespace Script

/-- The first list of a script. -/
def before {α : Type} (s : Script α) : List α := s.flatMap Edit.before

/-- The second list of a script. -/
def after {α : Type} (s : Script α) : List α := s.flatMap Edit.after

section

variable {α : Type}

@[simp] theorem before_nil : before ([] : Script α) = [] := rfl

@[simp] theorem after_nil : after ([] : Script α) = [] := rfl

@[simp] theorem before_cons (e : Edit α) (s : Script α) :
    before (e :: s) = e.before ++ before s := rfl

@[simp] theorem after_cons (e : Edit α) (s : Script α) :
    after (e :: s) = e.after ++ after s := rfl

@[simp] theorem before_append (s t : Script α) : before (s ++ t) = before s ++ before t :=
  List.flatMap_append

@[simp] theorem after_append (s t : Script α) : after (s ++ t) = after s ++ after t :=
  List.flatMap_append

end

/-- A stretch that stays; nothing if it is empty. -/
def kept {α : Type} (items : List α) : Script α := if items.isEmpty then [] else [.keep items]

/-- A stretch that goes and one that comes; nothing for one that is empty. -/
def replacing {α : Type} (deleted inserted : List α) : Script α :=
  (if deleted.isEmpty then [] else [.delete deleted])
    ++ (if inserted.isEmpty then [] else [.insert inserted])

end Script

end ListeningCharts.Diff
