import ListeningCharts.Store.Basic

/-! # Scripted source

A source whose replies are prepared. The requests for a family get its replies one after the other,
the last one again and again; a family without a reply has no records. Before a reply, the store may
be touched as if by another writer.
-/

namespace ListeningCharts

/-- A prepared reply. -/
structure ScriptedReply (τ : Type) where
  /-- What another writer does to the store before the reply. -/
  interference : τ → τ := id
  outcome : Except Error Listing

/-- The replies that are left, and the requests made so far, in order. -/
structure Script (τ : Type) where
  replies : Family → List (ScriptedReply τ)
  requests : List Request := []

namespace Script

/-- The next reply for a family. -/
def reply {τ : Type} (s : Script τ) (f : Family) : ScriptedReply τ :=
  (s.replies f).headD { outcome := .ok (Listing.empty f) }

/-- The script after a request. -/
def after {τ : Type} (s : Script τ) (r : Request) : Script τ where
  replies f :=
    match s.replies f with
    | _ :: next :: more => if f = r.family then next :: more else s.replies f
    | replies => replies
  requests := s.requests ++ [r]

/-- The source that follows the script in the second half of a state. -/
def source {τ : Type} : Source (τ × Script τ) := fun r (t, s) =>
  ((s.reply r.family).outcome, ((s.reply r.family).interference t, s.after r))

end Script

end ListeningCharts
