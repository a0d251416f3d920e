import ListeningCharts.Region

/-! # Spans

    How the spans of regions can lie to each other.

    * **Uncrossed** spans are disjoint, or one of them contains the other.
    * **No crossing**: regions of different families are uncrossed; regions of one family may
      overlap in any way.
    * **Laminar** regions are uncrossed, and disjoint if they are of one family.
-/

namespace ListeningCharts

namespace Span

/-- One span ends before the other starts. -/
def Disjoint (s t : Span) : Prop := s.stop ≤ t.start ∨ t.stop ≤ s.start

/-- A span lies inside another. -/
def Within (s t : Span) : Prop := t.start ≤ s.start ∧ s.stop ≤ t.stop

/-- The spans are disjoint, or one of them lies inside the other. -/
def Uncrossed (s t : Span) : Prop := s.Disjoint t ∨ s.Within t ∨ t.Within s

/-- The span neither starts in a range of bytes nor covers one of them. -/
def Spares (s : Span) (start stop : Nat) : Prop := stop ≤ s.start ∨ s.stop ≤ start ∧ s.start < start

instance (s t : Span) : Decidable (s.Disjoint t) :=
  inferInstanceAs (Decidable (s.stop ≤ t.start ∨ t.stop ≤ s.start))

instance (s t : Span) : Decidable (s.Within t) :=
  inferInstanceAs (Decidable (t.start ≤ s.start ∧ s.stop ≤ t.stop))

instance (s t : Span) : Decidable (s.Uncrossed t) :=
  inferInstanceAs (Decidable (s.Disjoint t ∨ s.Within t ∨ t.Within s))

variable {s t : Span}

theorem Uncrossed.symm (h : s.Uncrossed t) : t.Uncrossed s := by
  rcases h with (h | h) | h | h
  · exact .inl (.inr h)
  · exact .inl (.inl h)
  · exact .inr (.inr h)
  · exact .inr (.inl h)

/-- Of two uncrossed spans, the one that starts inside the other ends inside it. -/
theorem Uncrossed.stop_le (h : s.Uncrossed t) (hstart : s.start < t.start)
    (hinside : t.start < s.stop) (hne : s.start < t.stop) : t.stop ≤ s.stop := by
  rcases h with (h | h) | h | h
  · omega
  · omega
  · have := h.1
    omega
  · exact h.2

/-- A span that ends before a range of bytes spares it. -/
theorem spares_of_stop_le {start stop : Nat} (hlt : s.start < s.stop) (h : s.stop ≤ start) :
    s.Spares start stop := .inr ⟨h, Nat.lt_of_lt_of_le hlt h⟩

/-- A span that spares a range of bytes spares every part of it. -/
theorem Spares.mono {start stop start' stop' : Nat} (h : s.Spares start stop)
    (hstart : start ≤ start') (hstop : stop' ≤ stop) : s.Spares start' stop' := by
  rcases h with h | ⟨hend, hlt⟩
  · exact .inl (by omega)
  · exact .inr ⟨by omega, by omega⟩

end Span

/-! ## Regions -/

/-- Regions of different families do not cross. -/
def NoCrossing (regions : List Region) : Prop :=
  ∀ r ∈ regions, ∀ s ∈ regions, r.family ≠ s.family → r.span.Uncrossed s.span

instance (regions : List Region) : Decidable (NoCrossing regions) :=
  inferInstanceAs
    (Decidable (∀ r ∈ regions, ∀ s ∈ regions, r.family ≠ s.family → r.span.Uncrossed s.span))

theorem noCrossing_pair_iff {r s : Region} :
    NoCrossing [r, s] ↔ (r.family ≠ s.family → r.span.Uncrossed s.span) := by
  constructor
  · exact fun h hne => h r List.mem_cons_self s (by simp) hne
  · intro h p hp q hq hne
    simp only [List.mem_cons, List.not_mem_nil, or_false] at hp hq
    rcases hp with rfl | rfl <;> rcases hq with rfl | rfl
    · exact absurd rfl hne
    · exact h hne
    · exact (h hne.symm).symm
    · exact absurd rfl hne

/-- Regions of one family are disjoint; regions of different families do not cross. -/
structure Laminar (regions : List Region) : Prop where
  disjoint : regions.Pairwise fun r s => r.family = s.family → r.span.Disjoint s.span
  uncrossed : NoCrossing regions

theorem laminar_iff {regions : List Region} : Laminar regions ↔
    (regions.Pairwise fun r s => r.family = s.family → r.span.Disjoint s.span) ∧
      NoCrossing regions :=
  ⟨fun h => ⟨h.disjoint, h.uncrossed⟩, fun h => ⟨h.1, h.2⟩⟩

instance (regions : List Region) : Decidable (Laminar regions) := decidable_of_iff' _ laminar_iff

end ListeningCharts
