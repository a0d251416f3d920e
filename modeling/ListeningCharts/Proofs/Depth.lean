import ListeningCharts.Proofs.Pairing

/-! # Depth

    The regions of a family need not be told apart to know whether their markers match: it is
    enough to count how many are open (`depth`).

    * **Acceptance**: a scan succeeds if and only if every line is formed and the count starts and
      ends at zero without a closing line at zero (`exists_pairing_iff`).
    * **Neutral lines** open and close regions among themselves, for every family. They can be put
      into a document or taken out of it without a change to any count around them
      (`depth_neutral`).
-/

namespace ListeningCharts

/-- How many regions are open after a line. -/
def Family.after (f : Family) (count : Nat) (line : Text) : Nat :=
  match f.role line with
  | .opens => count + 1
  | .closes => count - 1
  | .content => count

/-- How many regions of a family are open after some lines; none if a line closes a region while
    none is open. -/
def depth (f : Family) : Nat → List Text → Option Nat
  | d, [] => some d
  | d, line :: lines =>
    if f.role line = .closes ∧ d = 0 then none else depth f (f.after d line) lines

variable {f : Family} {d e : Nat} {line : Text} {lines : List Text}

/-! ## One line -/

theorem after_of_opens (h : f.role line = .opens) : f.after d line = d + 1 := by
  rw [Family.after, h]

theorem after_of_closes (h : f.role line = .closes) : f.after d line = d - 1 := by
  rw [Family.after, h]

theorem after_of_content (h : f.role line = .content) : f.after d line = d := by
  rw [Family.after, h]

/-- Regions that were open before do not change what a line does to the others. -/
theorem after_add (h : ¬ (f.role line = .closes ∧ d = 0)) (k : Nat) :
    f.after (d + k) line = f.after d line + k := by
  unfold Family.after
  cases hrole : f.role line with
  | opens => simp only; omega
  | closes =>
    have hd : d ≠ 0 := fun hd => h ⟨hrole, hd⟩
    simp only
    omega
  | content => rfl

@[simp] theorem depth_nil : depth f d [] = some d := rfl

theorem depth_cons (h : ¬ (f.role line = .closes ∧ d = 0)) :
    depth f d (line :: lines) = depth f (f.after d line) lines := by
  rw [depth, if_neg h]

theorem depth_cons_eq_some (h : depth f d (line :: lines) = some e) :
    ¬ (f.role line = .closes ∧ d = 0) ∧ depth f (f.after d line) lines = some e := by
  rw [depth] at h
  split at h
  · cases h
  · next hline => exact ⟨hline, h⟩

theorem depth_cons_of_content (h : f.role line = .content) :
    depth f d (line :: lines) = depth f d lines := by
  rw [depth_cons (by simp [h]), after_of_content h]

/-! ## Many lines -/

theorem depth_append (f : Family) (d : Nat) (front back : List Text) :
    depth f d (front ++ back) = (depth f d front).bind fun e => depth f e back := by
  induction front generalizing d with
  | nil => rfl
  | cons line front ih =>
    rw [List.cons_append, depth, depth]
    split
    · rfl
    · exact ih _

theorem depth_append_eq_some {front back : List Text} (h : depth f d (front ++ back) = some e) :
    ∃ k, depth f d front = some k ∧ depth f k back = some e := by
  rw [depth_append] at h
  exact Option.bind_eq_some_iff.1 h

/-- Regions that were open before stay open beside those that are counted. -/
theorem depth_add (h : depth f d lines = some e) (k : Nat) :
    depth f (d + k) lines = some (e + k) := by
  induction lines generalizing d with
  | nil =>
    cases h
    rfl
  | cons line lines ih =>
    obtain ⟨hline, hrest⟩ := depth_cons_eq_some h
    have hline' : ¬ (f.role line = .closes ∧ d + k = 0) := fun ⟨hrole, hzero⟩ =>
      hline ⟨hrole, by omega⟩
    rw [depth_cons hline', after_add hline, ih hrest]

theorem depth_of_content (h : ∀ l ∈ lines, f.role l = .content) : depth f d lines = some d := by
  induction lines with
  | nil => rfl
  | cons line lines ih =>
    rw [depth_cons_of_content (h line List.mem_cons_self)]
    exact ih fun l hl => h l (List.mem_cons_of_mem _ hl)

/-! ## Neutral lines -/

/-- Lines that open and close the regions of a family among themselves. -/
def Neutral (f : Family) (lines : List Text) : Prop := depth f 0 lines = some 0

instance (f : Family) (lines : List Text) : Decidable (Neutral f lines) :=
  inferInstanceAs (Decidable (depth f 0 lines = some 0))

theorem neutral_of_content (h : ∀ l ∈ lines, f.role l = .content) : Neutral f lines :=
  depth_of_content h

theorem depth_neutral (h : Neutral f lines) (d : Nat) : depth f d lines = some d := by
  have hadd := depth_add h d
  rwa [Nat.zero_add] at hadd

/-- A neutral stretch does not count. -/
theorem depth_append_neutral {front mid : List Text} (h : Neutral f mid) (back : List Text) :
    depth f d (front ++ mid ++ back) = depth f d (front ++ back) := by
  rw [List.append_assoc, depth_append, depth_append f d front]
  refine congrArg _ (funext fun k => ?_)
  rw [depth_append, depth_neutral h]
  rfl

/-! ## Acceptance -/

section Acceptance

variable {pending : List OpenRegion} {offset : Nat} {regions : List Region}

theorem length_receive (line : Text) (pending : List OpenRegion) :
    (OpenRegion.receive line pending).length = pending.length := by
  match pending with
  | [] => rfl
  | [_] => rfl
  | _ :: _ :: _ => rfl

/-- What one line does to the regions pending, and which regions it closes. -/
theorem Pairing.exists_next (h : Pairing f pending offset (line :: lines) regions)
    (hstarts : ∀ p ∈ pending, p.start < offset) :
    ∃ pending' regions', Pairing f pending' (offset + line.byteLength + 1) lines regions' ∧
      pending'.length = f.after pending.length line ∧ (∀ p ∈ pending', p.start ≤ offset) ∧
      (∀ r ∈ regions', r ∈ regions) ∧
      ∀ r ∈ regions, r ∈ regions' ∨ r.span.stop = offset + line.byteLength ∧ pending ≠ [] := by
  cases hrole : f.role line with
  | opens =>
    obtain ⟨config, hrest⟩ := h.of_opens hrole
    exact ⟨_, regions, hrest, by simp [after_of_opens hrole], start_le_of_mem_open hstarts rfl,
      fun _ hr => hr, fun _ hr => .inl hr⟩
  | closes =>
    obtain ⟨oldest, others, closed, rfl, rfl, hrest⟩ := h.of_closes hrole
    refine ⟨others, closed, hrest, by simp [after_of_closes hrole],
      fun p hp => Nat.le_of_lt (hstarts p (List.mem_cons_of_mem _ hp)),
      fun r hr => List.mem_cons_of_mem _ hr, fun r hr => ?_⟩
    rcases List.mem_cons.1 hr with rfl | hr
    · exact .inr ⟨rfl, by simp⟩
    · exact .inl hr
  | content =>
    exact ⟨_, regions, h.of_content hrole, by rw [length_receive, after_of_content hrole],
      fun p hp => Nat.le_of_lt (start_lt_of_mem_receive hstarts line p hp), fun _ hr => hr,
      fun _ hr => .inl hr⟩

/-- Lines that close all regions leave none open. -/
theorem Pairing.depth_eq (h : Pairing f pending offset lines regions) :
    depth f pending.length lines = some 0 := by
  induction h with
  | done => rfl
  | opens hkind _ ih =>
    have hrole := Marker.role_of_classify_opening hkind
    rw [depth_cons (by simp [hrole]), after_of_opens hrole]
    rwa [List.length_append] at ih
  | closes hrole _ ih =>
    rw [depth_cons (by simp), after_of_closes hrole]
    exact ih
  | content hrole _ ih =>
    rw [depth_cons_of_content hrole]
    rwa [length_receive] at ih

theorem Pairing.isFormed (h : Pairing f pending offset lines regions) :
    ∀ l ∈ lines, Marker.IsFormed f l := by
  induction h with
  | done => simp
  | opens hkind _ ih => exact List.forall_mem_cons.2 ⟨⟨_, hkind⟩, ih⟩
  | closes hrole _ ih | content hrole _ ih =>
    exact List.forall_mem_cons.2 ⟨Marker.isFormed_of_role_ne_opens (by simp [hrole]), ih⟩

/-- Formed lines whose count ends at zero close all regions. -/
theorem exists_pairing (hformed : ∀ l ∈ lines, Marker.IsFormed f l)
    (hdepth : depth f pending.length lines = some 0) :
    ∃ regions, Pairing f pending offset lines regions := by
  -- each marker changes what is pending, and the count follows it
  induction lines generalizing pending offset with
  | nil =>
    have hnil : pending = [] := List.length_eq_zero_iff.1 (Option.some.inj hdepth)
    exact ⟨[], hnil ▸ .done⟩
  | cons line lines ih =>
    obtain ⟨hline, hformed⟩ := List.forall_mem_cons.1 hformed
    obtain ⟨hopen, hdepth⟩ := depth_cons_eq_some hdepth
    cases hrole : f.role line with
    | opens =>
      obtain ⟨config, hkind⟩ := Marker.exists_opening hline hrole
      rw [after_of_opens hrole] at hdepth
      have hopened : depth f (pending ++ [OpenRegion.mk line offset config []]).length lines =
          some 0 := by rwa [List.length_append]
      obtain ⟨regions, h⟩ := ih hformed hopened
      exact ⟨regions, .opens hkind h⟩
    | closes =>
      rw [after_of_closes hrole] at hdepth
      cases pending with
      | nil => exact absurd ⟨hrole, rfl⟩ hopen
      | cons oldest pending =>
        have hclosed : depth f pending.length lines = some 0 := hdepth
        obtain ⟨regions, h⟩ := ih hformed hclosed
        exact ⟨_, .closes hrole h⟩
    | content =>
      rw [after_of_content hrole] at hdepth
      have hgathered : depth f (OpenRegion.receive line pending).length lines = some 0 := by
        rwa [length_receive]
      obtain ⟨regions, h⟩ := ih hformed hgathered
      exact ⟨regions, .content hrole h⟩

/-- A document is accepted for a family if and only if its lines are formed and its markers match. -/
theorem exists_pairing_iff :
    (∃ regions, Pairing f [] offset lines regions) ↔
      (∀ l ∈ lines, Marker.IsFormed f l) ∧ Neutral f lines := by
  constructor
  · rintro ⟨regions, h⟩
    exact ⟨h.isFormed, h.depth_eq⟩
  · rintro ⟨hformed, hneutral⟩
    exact exists_pairing hformed hneutral

end Acceptance

end ListeningCharts
