import ListeningCharts.Proofs.Pairing

/-! # Outlines

    An outline is the lines of a document with the regions in them, one inside the other. A region of
    an outline stands for itself while the text around it and inside it changes: its markers and its
    family stay, its span and its body do not.

    * **Reading**: the scan of a family finds in an outline the regions of that family, as they are
      now (`Outline.pairMarkers_append`).
    * **Rendering** a family gives each of its regions a new body, in which there is no region any
      more (`Outline.rendered`).
    * An outline is **located** if its regions have the spans and the bodies that a scan finds.
-/

namespace ListeningCharts

/-- Lines of a document, with the regions in them. -/
inductive Outline where
  | nil
  | line (text : Text) (rest : Outline)
  | region (r : Region) (body rest : Outline)

namespace Region

/-- The region as a scan finds it, with these lines in its body and its start marker at byte
    `offset`. -/
def found (r : Region) (bodyLines : List Text) (offset : Nat) : Region where
  family := r.family
  startMarker := r.startMarker
  endMarker := r.endMarker
  bodyLines := bodyLines
  fullText := textOf r.startMarker bodyLines r.endMarker
  span := ⟨offset, offset + (textOf r.startMarker bodyLines r.endMarker).byteLength⟩
  config := r.config

/-- A region and the line feed behind it are the lines of the region. -/
theorem textOf_append_lineFeed (startMarker : Text) (bodyLines : List Text) (endMarker : Text) :
    textOf startMarker bodyLines endMarker ++ ['\n'] =
      Text.unlines (startMarker :: bodyLines ++ [endMarker]) :=
  Text.joinLines_append_lineFeed (by simp)

/-- The bytes of a region, by its lines. -/
theorem byteLength_textOf (startMarker : Text) (bodyLines : List Text) (endMarker : Text) :
    (textOf startMarker bodyLines endMarker).byteLength =
      startMarker.byteLength + 1 + (Text.unlines bodyLines).byteLength + endMarker.byteLength := by
  have h := congrArg Text.byteLength (textOf_append_lineFeed startMarker bodyLines endMarker)
  simp only [List.cons_append, Text.unlines_cons, Text.unlines_append, Text.unlines_nil,
    Text.byteLength_append, Text.byteLength_cons, Text.byteLength_nil, Text.utf8Size_lineFeed] at h
  omega

theorem textOf_ne_nil (startMarker : Text) (bodyLines : List Text) (endMarker : Text) :
    textOf startMarker bodyLines endMarker ≠ [] := by
  intro hnil
  have hlength := byteLength_textOf startMarker bodyLines endMarker
  rw [hnil, Text.byteLength_nil] at hlength
  omega

/-- A region that starts at a byte ends behind its markers and its body. -/
theorem add_byteLength_textOf (offset : Nat) (startMarker : Text) (bodyLines : List Text)
    (endMarker : Text) : offset + startMarker.byteLength + 1 +
      (Text.unlines bodyLines).byteLength + endMarker.byteLength =
        offset + (textOf startMarker bodyLines endMarker).byteLength := by
  rw [byteLength_textOf]
  omega

end Region

namespace Outline

/-! ## Lines -/

/-- The lines of an outline. -/
def lines : Outline → List Text
  | nil => []
  | line text rest => text :: rest.lines
  | region r body rest => (r.startMarker :: body.lines ++ [r.endMarker]) ++ rest.lines

/-- The bytes of the lines, each with its line feed. -/
def size (o : Outline) : Nat := (Text.unlines o.lines).byteLength

/-- Lines outside every region. -/
def ofLines : List Text → Outline
  | [] => nil
  | text :: texts => line text (ofLines texts)

@[simp] theorem lines_ofLines (texts : List Text) : (ofLines texts).lines = texts := by
  induction texts with
  | nil => rfl
  | cons text texts ih => rw [ofLines, lines, ih]

@[simp] theorem size_nil : nil.size = 0 := rfl

@[simp] theorem size_line (text : Text) (rest : Outline) :
    (line text rest).size = text.byteLength + 1 + rest.size := by
  simp [size, lines]
  omega

@[simp] theorem size_region (r : Region) (body rest : Outline) :
    (region r body rest).size =
      (Region.textOf r.startMarker body.lines r.endMarker).byteLength + 1 + rest.size := by
  rw [Region.byteLength_textOf]
  simp [size, lines]
  omega

/-! ## Markers -/

/-- Every region is marked, its body has no marker of its family, and every other line is plain. -/
def IsValid : Outline → Prop
  | nil => True
  | line text rest => IsPlain text ∧ rest.IsValid
  | region r body rest => r.IsMarked ∧ (∀ l ∈ body.lines, r.family.role l = .content) ∧
      body.IsValid ∧ rest.IsValid

theorem isValid_ofLines {texts : List Text} (h : ∀ l ∈ texts, IsPlain l) :
    (ofLines texts).IsValid := by
  induction texts with
  | nil => trivial
  | cons text texts ih =>
    obtain ⟨htext, htexts⟩ := List.forall_mem_cons.1 h
    exact ⟨htext, ih htexts⟩

/-- No line of a valid outline holds a line feed. -/
theorem IsValid.one {o : Outline} (h : o.IsValid) : ∀ l ∈ o.lines, '\n' ∉ l := by
  induction o with
  | nil => simp [lines]
  | line text rest ih => exact List.forall_mem_cons.2 ⟨h.1.one, ih h.2⟩
  | region r body rest ihBody ihRest =>
    obtain ⟨hmarked, -, hbody, hrest⟩ := h
    intro l hl
    simp only [lines, List.cons_append, List.mem_cons, List.mem_append, List.not_mem_nil,
      or_false] at hl
    rcases hl with rfl | (hl | rfl) | hl
    · exact hmarked.start_one
    · exact ihBody hbody l hl
    · exact hmarked.end_one
    · exact ihRest hrest l hl

/-! ## Reading -/

/-- The regions of a family, each with what a scan finds it to be if the outline starts at a byte. A
    region inside another one of the family is none to the scan, and there is none in a valid
    outline. -/
def visits (f : Family) : Nat → Outline → List (Region × Region)
  | _, nil => []
  | offset, line text rest => rest.visits f (offset + text.byteLength + 1)
  | offset, region r body rest =>
    (if r.family = f then [(r, r.found body.lines offset)]
      else body.visits f (offset + r.startMarker.byteLength + 1)) ++
      rest.visits f (offset + (Region.textOf r.startMarker body.lines r.endMarker).byteLength + 1)

variable {f : Family} {offset : Nat}

/-- What a scan finds in an outline with a region in front is that region, or it is found inside it or
    behind it. -/
theorem visits_cases {r : Region} {body rest : Outline} {visit : Region × Region}
    (h : visit ∈ (region r body rest).visits f offset) :
    visit = (r, r.found body.lines offset) ∨
      visit ∈ body.visits f (offset + r.startMarker.byteLength + 1) ∨
      visit ∈ rest.visits f
        (offset + (Region.textOf r.startMarker body.lines r.endMarker).byteLength + 1) := by
  rcases List.mem_append.1 h with h | h
  · split at h
    · exact .inl (List.mem_singleton.1 h)
    · exact .inr (.inl h)
  · exact .inr (.inr h)

/-- Content is passed over while no region is open. -/
theorem pairMarkers_nil_append {texts : List Text} (h : ∀ l ∈ texts, f.role l = .content)
    (after : List Text) : pairMarkers f [] offset (texts ++ after) =
      pairMarkers f [] (offset + (Text.unlines texts).byteLength) after := by
  induction texts generalizing offset with
  | nil => rfl
  | cons text texts ih =>
    obtain ⟨htext, htexts⟩ := List.forall_mem_cons.1 h
    rw [List.cons_append, pairMarkers_of_content htext]
    show pairMarkers f [] _ _ = _
    rw [ih htexts]
    congr 1
    simp
    omega

/-- Content is gathered while one region is open. -/
theorem pairMarkers_singleton_append {texts : List Text} (h : ∀ l ∈ texts, f.role l = .content)
    (only : OpenRegion) (after : List Text) : pairMarkers f [only] offset (texts ++ after) =
      pairMarkers f [{ only with bodyLines := only.bodyLines ++ texts }]
        (offset + (Text.unlines texts).byteLength) after := by
  induction texts generalizing offset only with
  | nil => simp
  | cons text texts ih =>
    obtain ⟨htext, htexts⟩ := List.forall_mem_cons.1 h
    rw [List.cons_append, pairMarkers_of_content htext]
    show pairMarkers f [only.push text] _ _ = _
    rw [ih htexts]
    simp only [OpenRegion.push, List.append_assoc, List.singleton_append]
    congr 1
    simp
    omega

/-- A marked region with content in its body is read at once. -/
theorem pairMarkers_region {r : Region} {body : List Text} (hmarked : r.IsMarked)
    (hcontent : ∀ l ∈ body, r.family.role l = .content) (after : List Text) :
    pairMarkers r.family [] offset (r.startMarker :: (body ++ (r.endMarker :: after))) =
      (pairMarkers r.family []
        (offset + (Region.textOf r.startMarker body r.endMarker).byteLength + 1) after).map
        (r.found body offset :: ·) := by
  rw [pairMarkers_of_opening hmarked.opens, List.nil_append, pairMarkers_singleton_append hcontent,
    pairMarkers_of_closes hmarked.closes, Region.add_byteLength_textOf]
  rfl

/-- **A scan finds the regions of its family** in an outline, and goes on behind it. -/
theorem pairMarkers_append {o : Outline} (h : o.IsValid) (after : List Text) :
    pairMarkers f [] offset (o.lines ++ after) =
      (pairMarkers f [] (offset + o.size) after).map ((o.visits f offset).map Prod.snd ++ ·) := by
  induction o generalizing offset after with
  | nil =>
    cases hpair : pairMarkers f [] offset after <;> simp [lines, visits, hpair, Except.map]
  | line text rest ih =>
    obtain ⟨hplain, hrest⟩ := h
    rw [lines, List.cons_append, pairMarkers_of_content (hplain.content f)]
    show pairMarkers f [] _ _ = _
    rw [ih hrest, visits, size_line]
    congr 2
    omega
  | region r body rest ihBody ihRest =>
    obtain ⟨hmarked, hcontent, hbody, hrest⟩ := h
    have hlines : (region r body rest).lines ++ after =
        r.startMarker :: (body.lines ++ (r.endMarker :: (rest.lines ++ after))) := by
      simp [lines]
    have hsize : offset + (region r body rest).size = offset + (Region.textOf r.startMarker body.lines
        r.endMarker).byteLength + 1 + rest.size := by
      rw [size_region]
      omega
    rw [hlines, hsize, visits]
    -- a region of the family is read at once; any other is read through, its markers being content
    by_cases hf : r.family = f
    · subst hf
      rw [pairMarkers_region hmarked hcontent, ihRest hrest, if_pos rfl]
      cases pairMarkers r.family [] _ after with
      | error e => rfl
      | ok regions => simp [Except.map]
    · have hstart : f.role r.startMarker = .content :=
        Family.role_of_ne (by simp [Marker.role_of_classify_opening hmarked.opens])
          fun heq => hf heq.symm
      have hend : f.role r.endMarker = .content :=
        Family.role_of_ne (by simp [hmarked.closes]) fun heq => hf heq.symm
      rw [pairMarkers_of_content hstart]
      show (pairMarkers f [] _ _) = _
      rw [ihBody hbody, pairMarkers_of_content hend]
      show (pairMarkers f [] _ _).map _ = _
      rw [size, Region.add_byteLength_textOf, ihRest hrest, if_neg hf]
      cases pairMarkers f [] _ after with
      | error e => rfl
      | ok regions => simp [Except.map]

/-- The regions of a family in the text of an outline. -/
theorem scan_eq {o : Outline} (h : o.IsValid) (hne : o.lines ≠ []) (f : Family) :
    scan f (Text.joinLines o.lines) = .ok ((o.visits f 0).map Prod.snd) := by
  have hpair : pairMarkers f [] 0 (o.lines ++ []) = _ := pairMarkers_append h []
  rw [List.append_nil] at hpair
  rw [scan, Text.lines_joinLines hne h.one, hpair, pairMarkers]
  simp [Except.map]

/-! ## Rendering -/

/-- The outline in which each region of a family shows new lines. -/
def rendered (f : Family) (shown : Region → List Text) : Outline → Outline
  | nil => nil
  | line text rest => line text (rest.rendered f shown)
  | region r body rest =>
    region r (if r.family = f then ofLines (shown r) else body.rendered f shown)
      (rest.rendered f shown)

/-- The regions of a family in an outline, those inside a region of the family or of one that is done
    left out. -/
def nodes (done : List Family) (f : Family) : Outline → List Region
  | nil => []
  | line _ rest => rest.nodes done f
  | region r body rest =>
    (if r.family = f then [r] else if r.family ∈ done then [] else body.nodes done f) ++
      rest.nodes done f

/-- What is found in an outline with a region in front is that region, or it is found inside it or
    behind it. -/
theorem nodes_cases {done : List Family} {r s : Region} {body rest : Outline}
    (h : s ∈ (region r body rest).nodes done f) :
    (s = r ∧ r.family = f) ∨ s ∈ body.nodes done f ∨ s ∈ rest.nodes done f := by
  rcases List.mem_append.1 h with h | h
  · split at h
    · next hf => exact .inl ⟨List.mem_singleton.1 h, hf⟩
    · split at h
      · cases h
      · exact .inr (.inl h)
  · exact .inr (.inr h)

variable {shown : Region → List Text}

/-- The lines of an outline are kept when plain lines are rendered. -/
theorem mem_lines_rendered {o : Outline} (hshown : ∀ r ∈ o.nodes [] f, ∀ l ∈ shown r, IsPlain l)
    {l : Text} (h : l ∈ (o.rendered f shown).lines) : l ∈ o.lines ∨ IsPlain l := by
  induction o with
  | nil => exact .inl h
  | line text rest ih =>
    rcases List.mem_cons.1 h with rfl | h
    · exact .inl (by simp [lines])
    · exact (ih hshown h).imp (List.mem_cons_of_mem _) id
  | region r body rest ihBody ihRest =>
    obtain ⟨hfirst, hrest⟩ := List.forall_mem_append.1 hshown
    simp only [rendered, lines, List.cons_append, List.mem_cons, List.mem_append, List.not_mem_nil,
      or_false] at h ⊢
    rcases h with rfl | (h | rfl) | h
    · exact .inl (.inl rfl)
    -- in the body: new lines if the region is rendered, otherwise lines of the body's outline
    · by_cases hf : r.family = f
      · rw [if_pos hf] at h hfirst
        rw [lines_ofLines] at h
        exact .inr (hfirst r List.mem_cons_self l h)
      · rw [if_neg hf] at h hfirst
        exact (ihBody (by simpa using hfirst) h).imp (fun h => .inr (.inl (.inl h))) id
    · exact .inl (.inr (.inl (.inr rfl)))
    · exact (ihRest hrest h).imp (fun h => .inr (.inr h)) id

/-- **An outline stays valid when plain lines are rendered**. -/
theorem IsValid.rendered {o : Outline} (hshown : ∀ r ∈ o.nodes [] f, ∀ l ∈ shown r, IsPlain l)
    (h : o.IsValid) : (o.rendered f shown).IsValid := by
  induction o with
  | nil => trivial
  | line text rest ih => exact ⟨h.1, ih hshown h.2⟩
  | region r body rest ihBody ihRest =>
    obtain ⟨hmarked, hcontent, hbody, hrest⟩ := h
    obtain ⟨hfirst, hothers⟩ := List.forall_mem_append.1 hshown
    by_cases hf : r.family = f
    · rw [if_pos hf] at hfirst
      have hplain := hfirst r List.mem_cons_self
      rw [Outline.rendered, if_pos hf]
      refine ⟨hmarked, fun l hl => ?_, isValid_ofLines hplain, ihRest hothers hrest⟩
      rw [lines_ofLines] at hl
      exact (hplain l hl).content r.family
    · rw [if_neg hf] at hfirst
      have hinside : ∀ r ∈ body.nodes [] f, ∀ l ∈ shown r, IsPlain l := by simpa using hfirst
      rw [Outline.rendered, if_neg hf]
      refine ⟨hmarked, fun l hl => ?_, ihBody hinside hbody, ihRest hothers hrest⟩
      rcases mem_lines_rendered hinside hl with hl | hplain
      · exact hcontent l hl
      · exact hplain.content r.family

theorem lines_rendered_ne_nil {o : Outline} (h : o.lines ≠ []) :
    (o.rendered f shown).lines ≠ [] := by
  cases o with
  | nil => exact absurd rfl h
  | line text rest => simp [rendered, lines]
  | region r body rest => simp [rendered, lines]

/-! ## Location -/

/-- Every region is what a scan finds it to be, if the outline starts at a byte. -/
def IsLocated : Nat → Outline → Prop
  | _, nil => True
  | offset, line text rest => rest.IsLocated (offset + text.byteLength + 1)
  | offset, region r body rest => r.found body.lines offset = r ∧
      body.IsLocated (offset + r.startMarker.byteLength + 1) ∧
      rest.IsLocated
        (offset + (Region.textOf r.startMarker body.lines r.endMarker).byteLength + 1)

/-- A scan finds the regions of a located outline themselves. -/
theorem IsLocated.visits_eq {o : Outline} (h : o.IsLocated offset) :
    ∀ visit ∈ o.visits f offset, visit.2 = visit.1 := by
  induction o generalizing offset with
  | nil => simp [visits]
  | line text rest ih => exact ih h
  | region r body rest ihBody ihRest =>
    obtain ⟨hfound, hbody, hrest⟩ := h
    intro visit hvisit
    rcases visits_cases hvisit with rfl | hvisit | hvisit
    · exact hfound
    · exact ihBody hbody visit hvisit
    · exact ihRest hrest visit hvisit

end Outline

end ListeningCharts
