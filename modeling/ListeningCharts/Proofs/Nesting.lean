import ListeningCharts.Proofs.Depth
import ListeningCharts.Proofs.Spans

/-! # Nesting

    Two families, an outer and an inner one. While a region of the outer family is open, the inner
    regions opened since then are counted as well: the count must be zero at every marker of the
    outer family, and no inner region opened before may be closed (`nest`).

    * **From spans to lines**: if no regions of the two families cross, then the lines nest
      (`nest_of_uncrossed`). The invariant: an inner region pending was opened before all the outer
      ones pending, or after all of them (`Layered`, `Abreast.step`).
    * **From lines to bodies**: if the lines nest, then the inner markers in the body of an outer
      region match among themselves (`Pairing.neutral_body`).
    * Neutral lines can be taken out of lines that nest and put into them (`nest_neutral`).
-/

namespace ListeningCharts

/-- Reads lines with `d` outer regions open, and `e` inner ones that were opened since the first of
    those; none if a marker does not nest. -/
def nest (f g : Family) : Nat → Nat → List Text → Option (Nat × Nat)
  | d, e, [] => some (d, e)
  | d, e, line :: lines =>
    if f.role line ≠ .content ∧ e ≠ 0 then none
    else if d = 0 then nest f g (f.after d line) e lines
    else if g.role line = .closes ∧ e = 0 then none
    else nest f g (f.after d line) (g.after e line) lines

variable {f g : Family} {d e : Nat} {line : Text} {lines : List Text}

/-! ## One line -/

/-- An outer marker nests where no inner region is open. -/
theorem nest_cons_outer (hfg : g ≠ f) (hrole : f.role line ≠ .content) :
    nest f g d 0 (line :: lines) = nest f g (f.after d line) 0 lines := by
  have hcontent := Family.role_of_ne hrole hfg
  rw [nest, if_neg (by simp), after_of_content hcontent]
  split
  · rfl
  · rw [if_neg (by simp [hcontent])]

/-- What is no outer marker does not matter outside the outer regions. -/
theorem nest_cons_outside (hrole : f.role line = .content) :
    nest f g 0 e (line :: lines) = nest f g 0 e lines := by
  rw [nest, if_neg (by simp [hrole]), if_pos rfl, after_of_content hrole]

/-- What is no outer marker counts for the inner family inside the outer regions. -/
theorem nest_cons_inside (hd : d ≠ 0) (hrole : f.role line = .content)
    (hline : ¬ (g.role line = .closes ∧ e = 0)) :
    nest f g d e (line :: lines) = nest f g d (g.after e line) lines := by
  rw [nest, if_neg (by simp [hrole]), if_neg hd, if_neg hline, after_of_content hrole]

/-- What can be read off a line that nests. -/
theorem nest_cons_eq_some {state : Nat × Nat} (h : nest f g d e (line :: lines) = some state) :
    (f.role line ≠ .content → e = 0) ∧
      (d ≠ 0 → ¬ (g.role line = .closes ∧ e = 0) ∧
        nest f g (f.after d line) (g.after e line) lines = some state) ∧
      (d = 0 → nest f g (f.after d line) e lines = some state) := by
  rw [nest] at h
  split at h
  · cases h
  · next houter =>
    refine ⟨fun hrole => by_contra fun he => houter ⟨hrole, he⟩, ?_⟩
    split at h
    · next hd => exact ⟨fun hne => absurd hd hne, fun _ => h⟩
    · next hd =>
      split at h
      · cases h
      · next hline => exact ⟨fun _ => ⟨hline, h⟩, fun hzero => absurd hzero hd⟩

/-! ## Many lines -/

theorem nest_append (f g : Family) (d e : Nat) (front back : List Text) :
    nest f g d e (front ++ back) =
      (nest f g d e front).bind fun state => nest f g state.1 state.2 back := by
  induction front generalizing d e with
  | nil => rfl
  | cons line front ih =>
    rw [List.cons_append, nest, nest]
    split
    · rfl
    · split
      · exact ih _ _
      · split
        · rfl
        · exact ih _ _

/-- Outside the outer regions no inner region is counted. -/
theorem nest_inner_eq_zero {d' e' : Nat} (h : nest f g d e lines = some (d', e'))
    (hzero : d = 0 → e = 0) (hd' : d' = 0) : e' = 0 := by
  induction lines generalizing d e with
  | nil =>
    cases h
    exact hzero hd'
  | cons line lines ih =>
    obtain ⟨houter, hinside, houtside⟩ := nest_cons_eq_some h
    by_cases hd : d = 0
    · exact ih (houtside hd) fun _ => hzero hd
    · obtain ⟨-, hrest⟩ := hinside hd
      refine ih hrest fun hafter => ?_
      -- the outer count fell to zero, so the line closed an outer region
      have hrole : f.role line ≠ .content := by
        intro hrole
        rw [after_of_content hrole] at hafter
        exact hd hafter
      have he := houter hrole
      by_cases hfg : g = f
      · subst hfg
        cases hrole' : g.role line with
        | opens => simp [after_of_opens hrole'] at hafter
        | closes => rw [after_of_closes hrole', he]
        | content => exact absurd hrole' hrole
      · rw [after_of_content (Family.role_of_ne hrole hfg), he]

/-- The outer count does not depend on the inner family. -/
theorem nest_outer_eq {a b d' e' : Nat} (h : nest f g (a + d) e lines = some (d', e'))
    (hdepth : depth f a lines = some b) : d' = b + d := by
  induction lines generalizing a e with
  | nil =>
    cases h
    cases hdepth
    rfl
  | cons line lines ih =>
    obtain ⟨hline, hdepth⟩ := depth_cons_eq_some hdepth
    obtain ⟨-, hinside, houtside⟩ := nest_cons_eq_some h
    by_cases hd : a + d = 0
    · exact ih (after_add hline d ▸ houtside hd) hdepth
    · exact ih (after_add hline d ▸ (hinside hd).2) hdepth

/-- Below an outer region that stays open, the inner count is the depth of the inner family. -/
theorem nest_inner_eq {a b e' : Nat} {state : Nat × Nat}
    (h : nest f g (a + (d + 1)) e lines = some state) (hdepth : depth f a lines = some b)
    (hinner : depth g e lines = some e') : state.2 = e' := by
  induction lines generalizing a e with
  | nil =>
    cases h
    cases hinner
    rfl
  | cons line lines ih =>
    obtain ⟨hline, hdepth⟩ := depth_cons_eq_some hdepth
    obtain ⟨-, hrest⟩ := (nest_cons_eq_some h).2.1 (by omega)
    exact ih (after_add hline (d + 1) ▸ hrest) hdepth (depth_cons_eq_some hinner).2

/-- **Neutral lines leave the counts alone.** -/
theorem nest_neutral {state : Nat × Nat} (h : nest f g d e lines = some state)
    (hzero : d = 0 → e = 0) (hf : Neutral f lines) (hg : Neutral g lines) : state = (d, e) := by
  obtain ⟨d', e'⟩ := state
  have hd' : d' = d := by
    have := nest_outer_eq (a := 0) (d := d) (by rwa [Nat.zero_add]) hf
    omega
  subst hd'
  cases d' with
  | zero => rw [hzero rfl, nest_inner_eq_zero h hzero rfl]
  | succ d =>
    have he' : e' = e :=
      nest_inner_eq (a := 0) (d := d) (by rwa [Nat.zero_add]) hf (depth_neutral hg e)
    rw [he']

/-- Lines of content nest anywhere. -/
theorem nest_of_content (hf : ∀ l ∈ lines, f.role l = .content)
    (hg : ∀ l ∈ lines, g.role l = .content) : nest f g d e lines = some (d, e) := by
  induction lines with
  | nil => rfl
  | cons line lines ih =>
    obtain ⟨hfl, hf⟩ := List.forall_mem_cons.1 hf
    obtain ⟨hgl, hg⟩ := List.forall_mem_cons.1 hg
    by_cases hd : d = 0
    · subst hd
      rw [nest_cons_outside hfl]
      exact ih hf hg
    · rw [nest_cons_inside hd hfl (by simp [hgl]), after_of_content hgl]
      exact ih hf hg

/-! ## From spans to lines -/

/-- Of the inner regions pending, `e` were opened after all the outer ones pending, and the others
    before all of them. The regions stand for the bytes at which they start. -/
structure Layered (outer inner : List Nat) (e : Nat) : Prop where
  layers : ∃ old new, inner = old ++ new ∧ new.length = e ∧
    (∀ b ∈ outer, ∀ a ∈ old, a < b) ∧ (∀ b ∈ outer, ∀ a ∈ new, b < a) ∧ (outer = [] → new = [])

namespace Layered

variable {outer inner : List Nat} {offset : Nat}

theorem zero_of_outer_nil (h : Layered [] inner e) : e = 0 := by
  obtain ⟨old, new, -, rfl, -, -, hnil⟩ := h.layers
  rw [hnil rfl]
  rfl

/-- An outer region can be opened while no inner region is counted. -/
theorem open_outer (h : Layered outer inner 0) (hinner : ∀ a ∈ inner, a < offset) :
    Layered (outer ++ [offset]) inner 0 := by
  obtain ⟨old, new, rfl, hlen, hold, -, -⟩ := h.layers
  obtain rfl := List.length_eq_zero_iff.1 hlen
  refine ⟨old, [], rfl, rfl, fun b hb a ha => ?_, by simp, by simp⟩
  rcases List.mem_append.1 hb with hb | hb
  · exact hold b hb a ha
  · rw [List.mem_singleton.1 hb]
    exact hinner a (List.mem_append_left _ ha)

/-- An outer region can be closed while no inner region is counted. -/
theorem close_outer {b : Nat} (h : Layered (b :: outer) inner 0) : Layered outer inner 0 := by
  obtain ⟨old, new, rfl, hlen, hold, -, -⟩ := h.layers
  obtain rfl := List.length_eq_zero_iff.1 hlen
  exact ⟨old, [], rfl, rfl, fun b hb => hold b (List.mem_cons_of_mem _ hb), by simp, by simp⟩

/-- Outside the outer regions, inner ones are opened and closed without being counted. -/
theorem of_outer_nil (inner : List Nat) : Layered [] inner 0 :=
  ⟨inner, [], (List.append_nil _).symm, rfl, by simp, by simp, by simp⟩

/-- An inner region that is opened inside an outer one is counted. -/
theorem open_inner (h : Layered outer inner e) (hne : outer ≠ [])
    (houter : ∀ b ∈ outer, b < offset) : Layered outer (inner ++ [offset]) (e + 1) := by
  obtain ⟨old, new, rfl, rfl, hold, hnew, -⟩ := h.layers
  refine ⟨old, new ++ [offset], by simp, by simp, hold, fun b hb a ha => ?_, fun hnil =>
    absurd hnil hne⟩
  rcases List.mem_append.1 ha with ha | ha
  · exact hnew b hb a ha
  · rw [List.mem_singleton.1 ha]
    exact houter b hb

/-- An inner region that was not opened before an outer one is counted no more when it is closed. -/
theorem close_inner {a b : Nat} (h : Layered outer (a :: inner) e) (hb : b ∈ outer)
    (hba : ¬ a < b) : e ≠ 0 ∧ Layered outer inner (e - 1) := by
  obtain ⟨old, new, hinner, rfl, hold, hnew, hnil⟩ := h.layers
  cases old with
  | cons a' old =>
    -- the region closed would have been opened before the outer one
    simp only [List.cons_append, List.cons.injEq] at hinner
    exact absurd (hinner.1 ▸ hold b hb a' List.mem_cons_self) hba
  | nil =>
    cases new with
    | nil => simp at hinner
    | cons a' new =>
      simp only [List.nil_append, List.cons.injEq] at hinner
      obtain ⟨rfl, rfl⟩ := hinner
      refine ⟨by simp, [], inner, rfl, by simp, by simp, fun b hb a ha =>
        hnew b hb a (List.mem_cons_of_mem _ ha), fun h => ?_⟩
      rw [h] at hb
      cases hb

/-- An inner region that is counted was opened after every outer one. -/
theorem exists_counted (h : Layered outer inner e) (he : e ≠ 0) :
    ∃ a ∈ inner, ∀ b ∈ outer, b < a := by
  obtain ⟨old, new, rfl, rfl, -, hnew, -⟩ := h.layers
  obtain ⟨a, ha⟩ := List.exists_mem_of_length_pos (Nat.pos_of_ne_zero he)
  exact ⟨a, List.mem_append_right _ ha, fun b hb => hnew b hb a ha⟩

end Layered

section Spans

variable {outer inner : List OpenRegion} {offset : Nat} {regions others : List Region}

/-- When a region is opened, no region of another family is pending that was opened after the oldest
    one pending. -/
theorem not_lt_of_opens {oldest q : OpenRegion}
    (hf : Pairing f (oldest :: outer) offset (line :: lines) regions)
    (hg : Pairing g inner offset (line :: lines) others) (hrole : f.role line = .opens)
    (hcross : ∀ r ∈ regions, ∀ s ∈ others, r.span.Uncrossed s.span) (hq : q ∈ inner)
    (hbefore : q.start < offset) : ¬ oldest.start < q.start := by
  intro hlt
  obtain ⟨config, hrest⟩ := hf.of_opens hrole
  obtain ⟨r, closed, rfl, hrstart, hpending, hfirst⟩ := Pairing.exists_oldest hrest
  obtain ⟨n, hn, hnstart⟩ := hpending { startMarker := line, start := offset, config } (by simp)
  obtain ⟨s, hs, hsstart⟩ := hg.exists_mem_of_pending hq
  simp only at hnstart
  have hrstop := hf.offset_lt_stop r List.mem_cons_self
  have hnstop := hf.offset_lt_stop n (List.mem_cons_of_mem _ hn)
  have hsstop := hg.offset_lt_stop s hs
  -- the other region ends before the oldest one, and the new one before that
  have h1 : s.span.stop ≤ r.span.stop :=
    (hcross r List.mem_cons_self s hs).stop_le (by omega) (by omega) (by omega)
  have h2 : n.span.stop ≤ s.span.stop :=
    (hcross n (List.mem_cons_of_mem _ hn) s hs).symm.stop_le (by omega) (by omega) (by omega)
  have h3 := hfirst n hn
  omega

/-- When a region is closed, no region of another family is pending that was opened after it. -/
theorem not_lt_of_closes {oldest q : OpenRegion}
    (hf : Pairing f (oldest :: outer) offset (line :: lines) regions)
    (hg : Pairing g inner offset (line :: lines) others) (hrole : f.role line = .closes)
    (hgrole : g.role line = .content)
    (hcross : ∀ r ∈ regions, ∀ s ∈ others, r.span.Uncrossed s.span) (hq : q ∈ inner)
    (hbefore : q.start < offset) : ¬ oldest.start < q.start := by
  intro hlt
  obtain ⟨p, ps, closed, hp, rfl, -⟩ := hf.of_closes hrole
  obtain ⟨rfl, rfl⟩ := List.cons.inj hp
  obtain ⟨s, hs, hsstart⟩ := hg.exists_mem_of_pending hq
  have hstop := (hg.of_content hgrole).offset_lt_stop s hs
  have h1 : s.span.stop ≤ offset + line.byteLength :=
    (hcross _ List.mem_cons_self s hs).stop_le (by show oldest.start < _; omega)
      (by show _ < offset + line.byteLength; omega) (by show oldest.start < _; omega)
  omega

/-- What holds while lines are read for two families: the regions that they close do not cross, and
    the inner ones pending are layered around the outer ones. -/
structure Abreast (f g : Family) (outer inner : List OpenRegion) (e offset : Nat)
    (lines : List Text) : Prop where
  closed : ∃ regions others, Pairing f outer offset lines regions ∧
    Pairing g inner offset lines others ∧ ∀ r ∈ regions, ∀ s ∈ others, r.span.Uncrossed s.span
  outer_lt : ∀ p ∈ outer, p.start < offset
  inner_lt : ∀ q ∈ inner, q.start < offset
  layered : Layered (outer.map OpenRegion.start) (inner.map OpenRegion.start) e

namespace Abreast

/-- Behind a line, the regions pending have started at the line or before it. -/
theorem of_le (hf : Pairing f outer (offset + line.byteLength + 1) lines regions)
    (hg : Pairing g inner (offset + line.byteLength + 1) lines others)
    (hcross : ∀ r ∈ regions, ∀ s ∈ others, r.span.Uncrossed s.span)
    (houter : ∀ p ∈ outer, p.start ≤ offset) (hinner : ∀ q ∈ inner, q.start ≤ offset)
    (hlayered : Layered (outer.map OpenRegion.start) (inner.map OpenRegion.start) e) :
    Abreast f g outer inner e (offset + line.byteLength + 1) lines where
  closed := ⟨regions, others, hf, hg, hcross⟩
  outer_lt p hp := Nat.lt_succ_of_le (Nat.le_add_right_of_le (houter p hp))
  inner_lt q hq := Nat.lt_succ_of_le (Nat.le_add_right_of_le (hinner q hq))
  layered := hlayered

/-- No inner region is counted at an outer marker. -/
theorem inner_eq_zero (hfg : g ≠ f) (h : Abreast f g outer inner e offset (line :: lines))
    (hrole : f.role line ≠ .content) : e = 0 := by
  by_contra he
  obtain ⟨regions, others, hf, hg, hcross⟩ := h.closed
  obtain ⟨a, ha, habove⟩ := h.layered.exists_counted he
  obtain ⟨q, hq, rfl⟩ := List.mem_map.1 ha
  have hbefore := h.inner_lt q hq
  cases outer with
  | nil => exact he h.layered.zero_of_outer_nil
  | cons oldest outer =>
    -- the region counted started behind the oldest outer one, and ends behind the marker
    have hlt := habove oldest.start (by simp)
    cases hrole' : f.role line with
    | opens => exact not_lt_of_opens hf hg hrole' hcross hq hbefore hlt
    | closes =>
      exact not_lt_of_closes hf hg hrole' (Family.role_of_ne hrole hfg) hcross hq hbefore hlt
    | content => exact hrole hrole'

/-- An outer marker is read while no inner region is counted. -/
theorem of_marker (hfg : g ≠ f) (h : Abreast f g outer inner e offset (line :: lines))
    (hrole : f.role line ≠ .content) : e = 0 ∧ ∃ outer', outer'.length = f.after outer.length line ∧
      Abreast f g outer' (OpenRegion.receive line inner) 0 (offset + line.byteLength + 1) lines := by
  obtain rfl := h.inner_eq_zero hfg hrole
  obtain ⟨regions, others, hf, hg, hcross⟩ := h.closed
  have hg' := hg.of_content (Family.role_of_ne hrole hfg)
  have hinner := fun q hq => Nat.le_of_lt (Pairing.start_lt_of_mem_receive h.inner_lt line q hq)
  refine ⟨rfl, ?_⟩
  cases hrole' : f.role line with
  | opens =>
    obtain ⟨config, hf'⟩ := hf.of_opens hrole'
    have hlayered := h.layered.open_outer (List.forall_mem_map.2 h.inner_lt)
    refine ⟨_, by simp [after_of_opens hrole'], .of_le hf' hg' hcross
      (Pairing.start_le_of_mem_open h.outer_lt rfl) hinner ?_⟩
    rwa [List.map_append, Pairing.map_start_receive]
  | closes =>
    obtain ⟨oldest, outer, closed, rfl, rfl, hf'⟩ := hf.of_closes hrole'
    refine ⟨outer, by simp [after_of_closes hrole'], .of_le hf' hg'
      (fun r hr => hcross r (List.mem_cons_of_mem _ hr))
      (fun p hp => Nat.le_of_lt (h.outer_lt p (List.mem_cons_of_mem _ hp))) hinner ?_⟩
    rw [Pairing.map_start_receive]
    exact h.layered.close_outer
  | content => exact absurd hrole' hrole

/-- Outside the outer regions, a line is left to the inner family. -/
theorem of_outside (h : Abreast f g [] inner e offset (line :: lines))
    (hrole : f.role line = .content) :
    e = 0 ∧ ∃ inner', Abreast f g [] inner' 0 (offset + line.byteLength + 1) lines := by
  obtain ⟨regions, others, hf, hg, hcross⟩ := h.closed
  obtain ⟨inner', others', hg', -, hinner, hsub, -⟩ := hg.exists_next h.inner_lt
  have hf' := hf.of_content hrole
  exact ⟨h.layered.zero_of_outer_nil, inner', .of_le hf' hg'
    (fun r hr s hs => hcross r hr s (hsub s hs)) (by simp) hinner (.of_outer_nil _)⟩

/-- Inside an outer region, an inner region that is closed was opened there. -/
theorem of_inside (h : Abreast f g outer inner e offset (line :: lines)) (hne : outer ≠ [])
    (hrole : f.role line = .content) : ¬ (g.role line = .closes ∧ e = 0) ∧ ∃ inner',
      Abreast f g (OpenRegion.receive line outer) inner' (g.after e line)
        (offset + line.byteLength + 1) lines := by
  obtain ⟨regions, others, hf, hg, hcross⟩ := h.closed
  have hf' := hf.of_content hrole
  have houter := fun p hp => Nat.le_of_lt (Pairing.start_lt_of_mem_receive h.outer_lt line p hp)
  cases hrole' : g.role line with
  | opens =>
    obtain ⟨config, hg'⟩ := hg.of_opens hrole'
    have hlayered := h.layered.open_inner (by simpa using hne) (List.forall_mem_map.2 h.outer_lt)
    refine ⟨by simp, _, .of_le hf' hg' hcross houter
      (Pairing.start_le_of_mem_open h.inner_lt rfl) ?_⟩
    rwa [after_of_opens hrole', List.map_append, Pairing.map_start_receive]
  | closes =>
    obtain ⟨q, inner, closed, rfl, rfl, hg'⟩ := hg.of_closes hrole'
    obtain ⟨oldest, outer, rfl⟩ := List.exists_cons_of_ne_nil hne
    have hbefore : ¬ q.start < oldest.start :=
      not_lt_of_closes hg hf hrole' hrole (fun s hs r hr => (hcross r hr s hs).symm)
        List.mem_cons_self (h.outer_lt oldest List.mem_cons_self)
    obtain ⟨he, hlayered⟩ := h.layered.close_inner List.mem_cons_self hbefore
    refine ⟨fun hzero => he hzero.2, inner, .of_le hf' hg'
      (fun r hr s hs => hcross r hr s (List.mem_cons_of_mem _ hs)) houter
      (fun q hq => Nat.le_of_lt (h.inner_lt q (List.mem_cons_of_mem _ hq))) ?_⟩
    rwa [after_of_closes hrole', Pairing.map_start_receive]
  | content =>
    refine ⟨by simp, OpenRegion.receive line inner, .of_le hf' (hg.of_content hrole') hcross houter
      (fun q hq => Nat.le_of_lt (Pairing.start_lt_of_mem_receive h.inner_lt line q hq)) ?_⟩
    rw [after_of_content hrole', Pairing.map_start_receive, Pairing.map_start_receive]
    exact h.layered

/-- **One line nests**, and keeps the families abreast. -/
theorem step (hfg : g ≠ f) (h : Abreast f g outer inner e offset (line :: lines)) :
    ∃ outer' inner' e', Abreast f g outer' inner' e' (offset + line.byteLength + 1) lines ∧
      nest f g outer.length e (line :: lines) = nest f g outer'.length e' lines := by
  by_cases hrole : f.role line = .content
  · cases outer with
    | nil =>
      obtain ⟨rfl, inner', hnext⟩ := h.of_outside hrole
      exact ⟨[], inner', 0, hnext, nest_cons_outside hrole⟩
    | cons oldest outer =>
      obtain ⟨hline, inner', hnext⟩ := h.of_inside (by simp) hrole
      refine ⟨_, inner', _, hnext, ?_⟩
      rw [nest_cons_inside (by simp) hrole hline, length_receive]
  · obtain ⟨rfl, outer', hlength, hnext⟩ := h.of_marker hfg hrole
    refine ⟨outer', _, 0, hnext, ?_⟩
    rw [nest_cons_outer hfg hrole, hlength]

/-- While two families are abreast, the lines nest. -/
theorem nest_eq (hfg : g ≠ f) (h : Abreast f g outer inner e offset lines) :
    nest f g outer.length e lines = some (0, 0) := by
  induction lines generalizing outer inner e offset with
  | nil =>
    obtain ⟨regions, others, hf, -, -⟩ := h.closed
    cases hf
    rw [h.layered.zero_of_outer_nil]
    rfl
  | cons line lines ih =>
    obtain ⟨outer', inner', e', hnext, hnest⟩ := h.step hfg
    rw [hnest]
    exact ih hnext

end Abreast

/-- **Regions that do not cross nest**: the lines of a document nest for two families if none of
    their regions cross. -/
theorem nest_of_uncrossed (hfg : g ≠ f) (hf : Pairing f [] offset lines regions)
    (hg : Pairing g [] offset lines others)
    (hcross : ∀ r ∈ regions, ∀ s ∈ others, r.span.Uncrossed s.span) :
    nest f g 0 0 lines = some (0, 0) := by
  have h : Abreast f g [] [] 0 offset lines :=
    ⟨⟨regions, others, hf, hg, hcross⟩, by simp, by simp, .of_outer_nil []⟩
  exact h.nest_eq hfg

end Spans

/-! ## From lines to bodies -/

/-- The bodies of the outer regions pending, as far as they were read: the inner markers in them match
    among themselves, those counted at the end of the only region pending apart. -/
def BodiesNest (g : Family) (e : Nat) : List OpenRegion → Prop
  | [] => True
  | [only] => depth g 0 only.bodyLines = some e
  | oldest :: others => Neutral g oldest.bodyLines ∧ ∀ p ∈ others, p.bodyLines = []

theorem BodiesNest.receive {pending : List OpenRegion} (h : BodiesNest g e pending)
    (hline : ¬ (g.role line = .closes ∧ e = 0)) :
    BodiesNest g (g.after e line) (OpenRegion.receive line pending) := by
  match pending, h with
  | [], _ => trivial
  | [only], h =>
    show depth g 0 (only.bodyLines ++ [line]) = _
    have hbody : depth g 0 only.bodyLines = some e := h
    rw [depth_append, hbody]
    show depth g e [line] = _
    rw [depth_cons hline, depth_nil]
  | _ :: _ :: _, h => exact h

theorem BodiesNest.push {pending : List OpenRegion} (h : BodiesNest g 0 pending) {o : OpenRegion}
    (ho : o.bodyLines = []) : BodiesNest g 0 (pending ++ [o]) := by
  match pending, h with
  | [], _ =>
    show depth g 0 o.bodyLines = some 0
    rw [ho, depth_nil]
  | [only], h => exact ⟨h, by simp [ho]⟩
  | oldest :: other :: others, h =>
    refine ⟨h.1, fun p hp => ?_⟩
    rcases List.mem_append.1 (by simpa using hp : p ∈ (other :: others) ++ [o]) with hp | hp
    · exact h.2 p hp
    · rw [List.mem_singleton.1 hp, ho]

theorem BodiesNest.close {oldest : OpenRegion} {pending : List OpenRegion}
    (h : BodiesNest g 0 (oldest :: pending)) :
    Neutral g oldest.bodyLines ∧ BodiesNest g 0 pending := by
  match pending, h with
  | [], h => exact ⟨h, trivial⟩
  | [only], h =>
    refine ⟨h.1, ?_⟩
    show depth g 0 only.bodyLines = some 0
    rw [h.2 only (by simp), depth_nil]
  | next :: other :: others, h =>
    refine ⟨h.1, ?_, fun p hp => h.2 p (List.mem_cons_of_mem _ hp)⟩
    rw [Neutral, h.2 next (by simp), depth_nil]

/-- The inner markers in the body of an outer region match among themselves. -/
theorem Pairing.neutral_body {pending : List OpenRegion} {offset : Nat} {regions : List Region}
    {state : Nat × Nat} (hfg : g ≠ f) (h : Pairing f pending offset lines regions)
    (hnest : nest f g pending.length e lines = some state) (hzero : pending = [] → e = 0)
    (hbodies : BodiesNest g e pending) : ∀ r ∈ regions, Neutral g r.bodyLines := by
  induction h generalizing e with
  | done => simp
  | @opens pending offset line lines regions config hkind rest ih =>
    have hrole := Marker.role_of_classify_opening hkind
    have hmarker : f.role line ≠ .content := by simp [hrole]
    obtain rfl := (nest_cons_eq_some hnest).1 hmarker
    rw [nest_cons_outer hfg hmarker, after_of_opens hrole] at hnest
    exact ih (by rwa [List.length_append]) (by simp) (hbodies.push rfl)
  | @closes oldest pending offset line lines regions hrole rest ih =>
    have hmarker : f.role line ≠ .content := by simp [hrole]
    obtain rfl := (nest_cons_eq_some hnest).1 hmarker
    rw [nest_cons_outer hfg hmarker, after_of_closes hrole] at hnest
    obtain ⟨hneutral, hbodies⟩ := hbodies.close
    intro r hr
    rcases List.mem_cons.1 hr with rfl | hr
    · exact hneutral
    · exact ih hnest (fun _ => rfl) hbodies r hr
  | @content pending offset line lines regions hrole rest ih =>
    cases pending with
    | nil =>
      obtain rfl := hzero rfl
      rw [List.length_nil, nest_cons_outside hrole] at hnest
      exact ih hnest (fun _ => rfl) trivial
    | cons oldest pending =>
      obtain ⟨hline, hrest⟩ := (nest_cons_eq_some hnest).2.1 (by simp)
      rw [after_of_content hrole, ← length_receive line] at hrest
      refine ih hrest (fun hnil => ?_) (hbodies.receive hline)
      have := length_receive line (oldest :: pending)
      simp [hnil] at this

end ListeningCharts
