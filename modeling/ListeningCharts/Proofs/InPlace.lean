import ListeningCharts.Proofs.Numbering
import ListeningCharts.Proofs.Pass
import Mathlib.Data.List.Pairwise

/-! # Regions that stand alone

    The span of a region is counted while the lines are read, and its text is put together from its
    markers and the lines of its body. The two agree exactly if no marker of the family stands
    between the two markers of the region.

    * **Lines**: the body is made of lines between the markers. It is all of them if they are content,
      and shorter otherwise (`Region.IsNumber.bodyLines_eq`, `Region.IsNumber.bodyLines_sublist`).
    * **Spans**: there is a marker between the markers of a region exactly if the span of another
      region overlaps its span (`Region.IsNumber.disjoint`, `exists_overlapping`).
    * **Splices**: regions that do not overlap are in place whenever it is their turn to be spliced
      (`isInPlace_of_descending`); a region that overlaps another one is not in place.
-/

namespace ListeningCharts

/-! ## Fewer lines -/

/-- Lines that are left out make a text shorter. -/
theorem Text.byteLength_unlines_le {ls ms : List Text} (h : ls.Sublist ms) :
    (unlines ls).byteLength ≤ (unlines ms).byteLength := by
  induction h with
  | slnil => exact Nat.le_refl _
  | cons m _ ih =>
    rw [byteLength_unlines_cons]
    omega
  | cons_cons m _ ih =>
    rw [byteLength_unlines_cons, byteLength_unlines_cons]
    omega

/-- A line that is left out counts, even an empty one: its line feed is left out, too. -/
theorem Text.byteLength_unlines_lt {ls ms : List Text} (h : ls.Sublist ms) (hne : ls ≠ ms) :
    (unlines ls).byteLength < (unlines ms).byteLength := by
  induction h with
  | slnil => exact absurd rfl hne
  | cons m hsub _ =>
    have hle := byteLength_unlines_le hsub
    rw [byteLength_unlines_cons]
    omega
  | cons_cons m _ ih =>
    have hlt := ih fun heq => hne (by rw [heq])
    rw [byteLength_unlines_cons, byteLength_unlines_cons]
    omega

namespace Family

variable {f : Family} {opened closed : Nat} {front back : List Text}

/-- What some lines add to the content is some of these lines. -/
theorem contentAt_append_sublist : (f.contentAt opened closed (front ++ back)).Sublist
    (f.contentAt opened closed front ++ back) := by
  induction back using List.reverseRecOn with
  | nil => simp
  | append_singleton back line ih =>
    rw [← List.append_assoc, ← List.append_assoc, contentAt_snoc]
    apply List.Sublist.append ih
    split
    · exact List.Sublist.refl _
    · exact List.nil_sublist _

/-- Lines of content add themselves where the counts are right. -/
theorem contentAt_append_of_content (hopens : f.count .opens front = opened)
    (hcloses : f.count .closes front = closed) (hback : ∀ l ∈ back, f.role l = .content) :
    f.contentAt opened closed (front ++ back) = f.contentAt opened closed front ++ back := by
  induction back using List.reverseRecOn with
  | nil => simp
  | append_singleton back line ih =>
    obtain ⟨hback, hline⟩ := List.forall_mem_append.1 hback
    have hrole : f.role line = .content := hline line List.mem_cons_self
    have hnone : ∀ role, role ≠ .content → f.count role back = 0 := by
      intro role hne
      apply count_eq_zero
      intro l hl
      rw [hback l hl]
      exact hne.symm
    rw [← List.append_assoc, contentAt_snoc, ih hback, count_append, count_append,
      hnone _ (by simp), hnone _ (by simp), if_pos ⟨hrole, hopens, hcloses⟩, List.append_assoc]

end Family

/-! ## Lines of a region -/

variable {f : Family} {document : Text} {lines : List Text} {regions : List Region} {r s : Region}
  {j k : Nat} {front inside back front' inside' back' : List Text}

namespace Region.IsNumber

/-- The content that belongs to a region is told in front of its end marker. -/
theorem body_eq_front (h : r.IsNumber f lines k front inside back) :
    r.bodyLines = f.contentAt (k + 1) k ((front ++ [r.startMarker]) ++ inside) := by
  have hlt : k < f.count .closes ((front ++ r.startMarker :: inside) ++ [r.endMarker]) := by
    rw [Family.count_snoc_self h.closes, h.count_closes]
    omega
  rw [h.body_eq, h.lines_eq_end, List.append_cons, Family.contentAt_append_of_closes_lt hlt,
    Family.contentAt_snoc_of_marker (by simp [h.closes]), List.append_cons]

/-- Nothing in front of its start marker belongs to a region. -/
theorem contentAt_front (h : r.IsNumber f lines k front inside back) :
    f.contentAt (k + 1) k (front ++ [r.startMarker]) = [] := by
  have hlt : f.count .opens front < k + 1 := by
    rw [h.count_opens]
    omega
  rw [Family.contentAt_snoc_of_marker (by simp [h.role_startMarker]),
    Family.contentAt_of_opens_lt hlt]

/-- The body of a region is made of lines between its markers. -/
theorem bodyLines_sublist (h : r.IsNumber f lines k front inside back) :
    r.bodyLines.Sublist inside := by
  have hsub : (f.contentAt (k + 1) k ((front ++ [r.startMarker]) ++ inside)).Sublist _ :=
    Family.contentAt_append_sublist
  rw [← h.body_eq_front, h.contentAt_front] at hsub
  exact hsub

/-- The body of a region is all lines between its markers if these are content. Since no region is
    closed there, every region opened before is closed already. -/
theorem bodyLines_eq (h : r.IsNumber f lines k front inside back)
    (hinside : ∀ l ∈ inside, f.role l = .content) : r.bodyLines = inside := by
  have hopens : f.count .opens (front ++ [r.startMarker]) = k + 1 := by
    rw [Family.count_snoc_self h.role_startMarker, h.count_opens]
  have hcloses : f.count .closes (front ++ [r.startMarker]) = k := by
    have hcount := h.count_closes
    have hnone : f.count .closes inside = 0 :=
      Family.count_eq_zero fun l hl => by rw [hinside l hl]; simp
    rw [List.append_cons, Family.count_append, hnone] at hcount
    exact hcount
  rw [h.body_eq_front, Family.contentAt_append_of_content hopens hcloses hinside, h.contentAt_front,
    List.nil_append]

/-- The lines around a line between the markers. -/
theorem lines_eq_line {line : Text} (a b : List Text)
    (h : r.IsNumber f lines k front (a ++ line :: b) back) :
    lines = (front ++ r.startMarker :: a) ++ line :: (b ++ r.endMarker :: back) := by
  rw [h.lines_eq]
  simp

/-- What a document holds at the span of a region is all lines from its start marker to its end
    marker. -/
theorem slice_eq (h : r.IsNumber f document.lines k front inside back) :
    document.slice? r.span.start r.span.stop = some (textOf r.startMarker inside r.endMarker) := by
  have hne : r.startMarker :: inside ++ [r.endMarker] ≠ [] := by simp
  have hlines : document.lines = front ++ (r.startMarker :: inside ++ [r.endMarker]) ++ back := by
    rw [h.lines_eq]
    simp
  have hdocument := Text.joinLines_lines document
  rw [hlines, Text.joinLines_append_append front hne back] at hdocument
  have hstop : r.span.stop = (Text.unlines front).byteLength +
      (textOf r.startMarker inside r.endMarker).byteLength := by
    rw [h.stop_eq, byteLength_textOf, Text.byteLength_unlines_append, Text.byteLength_unlines_cons]
    omega
  exact Text.slice?_eq_some_iff.2 ⟨_, _, hdocument.symm, h.start_eq, hstop⟩

theorem start_lt_stop (h : r.IsNumber f lines k front inside back) :
    r.span.start < r.span.stop := by
  rw [h.start_eq, h.stop_eq, Text.byteLength_unlines_append, Text.byteLength_unlines_cons]
  omega

/-- The text of a region is shorter than its span if a line between its markers is not of its
    body. -/
theorem byteLength_fullText_lt (h : r.IsNumber f lines k front inside back)
    (htext : r.fullText = textOf r.startMarker r.bodyLines r.endMarker)
    (hne : r.bodyLines ≠ inside) : r.fullText.byteLength < r.span.stop - r.span.start := by
  have hlt := Text.byteLength_unlines_lt h.bodyLines_sublist hne
  rw [htext, byteLength_textOf, h.start_eq, h.stop_eq, Text.byteLength_unlines_append,
    Text.byteLength_unlines_cons]
  omega

/-- A region is in place exactly if its body is all lines between its markers. -/
theorem isInPlace_iff_bodyLines (h : r.IsNumber f document.lines k front inside back)
    (htext : r.fullText = textOf r.startMarker r.bodyLines r.endMarker) :
    r.isInPlace document = true ↔ r.bodyLines = inside := by
  rw [isInPlace, beq_iff_eq, h.slice_eq]
  constructor
  · intro hplace
    by_contra hne
    -- both texts fill the span, but the one without the lines left out is shorter
    have hlt := h.byteLength_fullText_lt htext hne
    obtain ⟨_, _, -, hstart, hstop⟩ := Text.slice?_eq_some_iff.1 h.slice_eq
    rw [← Option.some.inj hplace, hstop, hstart] at hlt
    omega
  · rintro rfl
    rw [htext]

/-! ## Spans that overlap -/

/-- A region with only content between its markers overlaps no other one. -/
theorem disjoint (hr : r.IsNumber f lines j front inside back)
    (hs : s.IsNumber f lines k front' inside' back') (hinside : ∀ l ∈ inside, f.role l = .content)
    (hne : j ≠ k) : s.span.Disjoint r.span := by
  rcases Nat.lt_or_gt_of_ne hne with hlt | hlt
  · -- the other one is opened later: behind the end marker, since not between the two
    have hcount : f.count .opens front < f.count .opens front' := by
      rw [hr.count_opens, hs.count_opens]
      exact hlt
    have hopens := hs.role_startMarker
    have hlines := hr.lines_eq.symm.trans hs.lines_eq
    obtain ⟨mid, rfl⟩ := exists_between hr.lines_eq hs.lines_eq hcount
    rw [List.append_assoc, List.cons_append] at hlines
    have hrest := (List.cons.inj (List.append_cancel_left hlines)).2
    rcases append_cons_cases hrest with ⟨more, rfl, -⟩ | ⟨-, heq, -⟩ | ⟨more, hmore, -⟩
    · right
      simp only [hr.stop_eq, hs.start_eq, Text.byteLength_unlines_append,
        Text.byteLength_unlines_cons]
      omega
    · rw [← heq, hr.closes] at hopens
      cases hopens
    · rw [hinside s.startMarker (by simp [hmore])] at hopens
      cases hopens
  · -- the other one is closed before: in front of the start marker, since not between the two
    have hcount : f.count .closes (front' ++ s.startMarker :: inside') <
        f.count .closes (front ++ r.startMarker :: inside) := by
      rw [hr.count_closes, hs.count_closes]
      exact hlt
    have hcloses := hs.closes
    obtain ⟨mid, hmid⟩ := exists_between hs.lines_eq_end hr.lines_eq_end hcount
    rcases append_cons_cases hmid with ⟨more, -, hmore⟩ | ⟨-, heq, -⟩ | ⟨more, rfl, -⟩
    · rw [hinside s.endMarker (by simp [hmore])] at hcloses
      cases hcloses
    · rw [← heq, hr.role_startMarker] at hcloses
      cases hcloses
    · left
      simp only [hs.stop_eq, hr.start_eq, Text.byteLength_unlines_append,
        Text.byteLength_unlines_cons]
      omega

end Region.IsNumber

section Scan

variable {line : Text}

/-- Every opening line is the start marker of the region with its number. -/
theorem exists_of_opens (h : scan f document = .ok regions)
    (hlines : document.lines = front ++ line :: back) (hrole : f.role line = .opens) :
    ∃ s inside back', regions[f.count .opens front]? = some s ∧ s.startMarker = line ∧
      s.IsNumber f document.lines (f.count .opens front) front inside back' := by
  have hlt : f.count .opens front < regions.length := by
    rw [length_eq_count_opens h, hlines, Family.count_append, Family.count_cons_self hrole]
    omega
  have hs := List.getElem?_eq_getElem hlt
  obtain ⟨front', inside, back', hnumber⟩ := isNumber_of_scan h hs
  obtain ⟨rfl, hline, -⟩ := eq_of_count_eq hnumber.lines_eq hlines hnumber.role_startMarker hrole
    hnumber.count_opens
  exact ⟨_, inside, back', hs, hline, hnumber⟩

/-- Every closing line is the end marker of the region with its number. -/
theorem exists_of_closes (h : scan f document = .ok regions)
    (hlines : document.lines = front ++ line :: back) (hrole : f.role line = .closes) :
    ∃ s front' inside, regions[f.count .closes front]? = some s ∧ s.endMarker = line ∧
      front = front' ++ s.startMarker :: inside ∧
      s.IsNumber f document.lines (f.count .closes front) front' inside back := by
  have hlt : f.count .closes front < regions.length := by
    rw [length_eq_count_closes h, hlines, Family.count_append, Family.count_cons_self hrole]
    omega
  have hs := List.getElem?_eq_getElem hlt
  obtain ⟨front', inside, back', hnumber⟩ := isNumber_of_scan h hs
  obtain ⟨hfront, hline, rfl⟩ := eq_of_count_eq hnumber.lines_eq_end hlines hnumber.closes hrole
    hnumber.count_closes
  exact ⟨_, front', inside, hs, hline, hfront.symm, hnumber⟩

/-- A region that is opened between the markers of another one overlaps it, since it starts there. -/
theorem exists_overlapping_of_opens {a b : List Text} (h : scan f document = .ok regions)
    (hr : r.IsNumber f document.lines k front (a ++ line :: b) back) (hrole : f.role line = .opens) :
    ∃ s ∈ regions, s ≠ r ∧ ¬ s.span.Disjoint r.span := by
  obtain ⟨s, inside', back', hs, -, hnumber⟩ := exists_of_opens h (hr.lines_eq_line a b) hrole
  have hsstart := hnumber.start_eq
  have hsstop := hnumber.start_lt_stop
  have hrstart := hr.start_eq
  have hrstop := hr.stop_eq
  simp only [Text.byteLength_unlines_append, Text.byteLength_unlines_cons] at hsstart hrstop
  refine ⟨s, List.mem_of_getElem? hs, fun heq => ?_, ?_⟩
  · rw [heq] at hsstart
    omega
  · rintro (hle | hle) <;> omega

/-- A region that is closed between the markers of another one overlaps it, since it was opened
    before and ends there. -/
theorem exists_overlapping_of_closes {a b : List Text} (h : scan f document = .ok regions)
    (hr : r.IsNumber f document.lines k front (a ++ line :: b) back) (hrole : f.role line = .closes) :
    ∃ s ∈ regions, s ≠ r ∧ ¬ s.span.Disjoint r.span := by
  obtain ⟨s, front', inside', hs, rfl, hfront, hnumber⟩ :=
    exists_of_closes h (hr.lines_eq_line a b) hrole
  have hlt : f.count .closes (front ++ r.startMarker :: a) < k := by
    have hcount := hr.count_closes
    rw [← List.cons_append, ← List.append_assoc, Family.count_append,
      Family.count_cons_self hrole] at hcount
    omega
  have hstart := (hnumber.span_lt hr hlt).1
  have hsstop := hnumber.stop_eq
  have hrstart := hr.start_eq
  have hrlt := hr.start_lt_stop
  rw [← hfront] at hsstop
  simp only [Text.byteLength_unlines_append, Text.byteLength_unlines_cons] at hsstop
  refine ⟨s, List.mem_of_getElem? hs, fun heq => ?_, ?_⟩
  · rw [heq] at hstart
    omega
  · rintro (hle | hle) <;> omega

/-- A region with a marker between its markers overlaps another one, the one with that marker. -/
theorem exists_overlapping (h : scan f document = .ok regions)
    (hr : r.IsNumber f document.lines k front inside back) (hline : line ∈ inside)
    (hrole : f.role line ≠ .content) : ∃ s ∈ regions, s ≠ r ∧ ¬ s.span.Disjoint r.span := by
  obtain ⟨a, b, rfl⟩ := List.append_of_mem hline
  cases hkind : f.role line with
  | content => exact absurd hkind hrole
  | opens => exact exists_overlapping_of_opens h hr hkind
  | closes => exact exists_overlapping_of_closes h hr hkind

/-- A region stands alone if no other one overlaps it. -/
def Region.IsAlone (r : Region) (regions : List Region) : Prop :=
  ∀ s ∈ regions, s ≠ r → s.span.Disjoint r.span

/-- **A region stands alone exactly if there is only content between its markers**. -/
theorem isAlone_iff (h : scan f document = .ok regions) (hk : regions[k]? = some r)
    (hr : r.IsNumber f document.lines k front inside back) :
    r.IsAlone regions ↔ ∀ l ∈ inside, f.role l = .content := by
  constructor
  · intro halone l hl
    by_contra hrole
    obtain ⟨s, hs, hne, hoverlap⟩ := exists_overlapping h hr hl hrole
    exact hoverlap (halone s hs hne)
  · intro hinside s hs hne
    obtain ⟨j, hj⟩ := List.mem_iff_getElem?.1 hs
    obtain ⟨front', inside', back', hnumber⟩ := isNumber_of_scan h hj
    refine hr.disjoint hnumber hinside fun heq => hne ?_
    rw [heq, hj] at hk
    exact Option.some.inj hk

/-- **A region is in place exactly if there is only content between its markers**. -/
theorem isInPlace_iff_content (h : scan f document = .ok regions) (hk : regions[k]? = some r)
    (hr : r.IsNumber f document.lines k front inside back) :
    r.isInPlace document = true ↔ ∀ l ∈ inside, f.role l = .content := by
  have hmem := List.mem_of_getElem? hk
  have hshape := isShaped_of_scan h r hmem
  have hcontent := hshape.body_content
  rw [family_of_scan h r hmem] at hcontent
  rw [hr.isInPlace_iff_bodyLines hshape.text]
  constructor
  · rintro rfl
    exact hcontent
  · exact hr.bodyLines_eq

end Scan

/-! ## Splices of regions that stand alone -/

/-- A document with some regions replaced, one after the other. -/
def splicedBy (document : Text) (entries : List (Region × Text)) : Text :=
  entries.foldl (fun working entry => entry.1.splice working entry.2) document

/-- The splices of a pass go from the last region of the document to the first one. -/
theorem spliceAll_eq_splicedBy (document : Text) (entries : List (Region × Text)) :
    spliceAll document entries = splicedBy document (latestFirst entries) := rfl

/-- **Regions in descending order stay in place until it is their turn**, since what is replaced
    before stands behind them. -/
theorem isInPlace_of_descending {entries : List (Region × Text)}
    (hdescend : entries.Pairwise fun a b => b.1.span.stop ≤ a.1.span.start)
    (hplace : ∀ entry ∈ entries, entry.1.isInPlace document = true)
    {done rest : List (Region × Text)} {entry : Region × Text}
    (hentries : entries = done ++ entry :: rest) :
    entry.1.isInPlace (splicedBy document done) = true := by
  induction entries generalizing document done with
  | nil => simp at hentries
  | cons first entries ih =>
    obtain ⟨hfirst, hdescend⟩ := List.pairwise_cons.1 hdescend
    obtain ⟨hhere, hothers⟩ := List.forall_mem_cons.1 hplace
    cases done with
    | nil =>
      obtain ⟨rfl, -⟩ := List.cons.inj hentries
      exact hhere
    | cons other done =>
      obtain ⟨rfl, hrest⟩ := List.cons.inj hentries
      obtain ⟨before, after, rfl, hstart, hstop⟩ := Region.isInPlace_iff.1 hhere
      have hnext : ∀ next ∈ entries, next.1.isInPlace (before ++ first.2 ++ after) = true := by
        intro next hnext
        have hnextplace := hothers next hnext
        have hnextstop := hfirst next hnext
        rw [List.append_assoc] at hnextplace ⊢
        exact Region.isInPlace_of_front hnextplace (by omega)
      have hsplice : first.1.splice (before ++ first.1.fullText ++ after) first.2 =
          before ++ first.2 ++ after := Region.splice_of_eq_append hstart hstop first.2
      have hih := ih hdescend hnext hrest
      rw [← hsplice] at hih
      exact hih

/-- Regions that a scan finds apart from each other are in place when it is their turn. -/
theorem isInPlace_of_disjoint (h : scan f document = .ok regions)
    (hdisjoint : regions.Pairwise fun r s => r.span.Disjoint s.span)
    {entries done rest : List (Region × Text)} {entry : Region × Text}
    (hregions : entries.map Prod.fst = regions)
    (hentries : latestFirst entries = done ++ entry :: rest) :
    entry.1.isInPlace (splicedBy document done) = true := by
  have hbehind : regions.Pairwise fun r s => r.span.stop ≤ s.span.start := by
    refine ((spans_ascend h).and hdisjoint).imp_of_mem ?_
    rintro r s - hs ⟨⟨hstart, -⟩, hle | hle⟩
    · exact hle
    · -- the second one does not end before it starts
      obtain ⟨k, hk⟩ := List.mem_iff_getElem?.1 hs
      obtain ⟨_, _, _, hnumber⟩ := isNumber_of_scan h hk
      have hlt := hnumber.start_lt_stop
      omega
  have hplace : ∀ r ∈ regions, r.isInPlace document = true := by
    intro r hr
    obtain ⟨k, hk⟩ := List.mem_iff_getElem?.1 hr
    obtain ⟨_, _, _, hnumber⟩ := isNumber_of_scan h hk
    have hsymm : Std.Symm fun r s : Region => r.span.Disjoint s.span := ⟨fun _ _ => Or.symm⟩
    have halone : r.IsAlone regions := fun s hs hne => hdisjoint.forall hs hr hne
    exact (isInPlace_iff_content h hk hnumber).2 ((isAlone_iff h hk hnumber).1 halone)
  have hstarts := (spans_ascend h).imp And.left
  rw [← hregions, List.pairwise_map] at hbehind hstarts
  rw [latestFirst_of_ascending hstarts] at hentries
  refine isInPlace_of_descending (List.pairwise_reverse.2 hbehind) (fun e he => ?_) hentries
  apply hplace
  rw [← hregions]
  exact List.mem_map_of_mem (List.mem_reverse.1 he)

/-! ## The law -/

/-- **The span of a region holds its text exactly if the region stands alone**: the region with number
    `k` is in place if and only if no marker of the family stands between its markers, which means
    that no other region overlaps it, and otherwise its text is shorter than its span. A splice in
    the document goes by the span of a region exactly if it is in place; and if no two regions
    overlap, then all splices go by the spans. -/
theorem in_place_iff_alone (f : Family) (document : Text) (regions : List Region)
    (h : scan f document = .ok regions) :
    (∀ (k : Nat) (r : Region), regions[k]? = some r → ∃ front inside back,
      r.IsNumber f document.lines k front inside back ∧
      (document.slice? r.span.start r.span.stop = some r.fullText ↔
        ∀ l ∈ inside, f.role l = .content) ∧
      (document.slice? r.span.start r.span.stop = some r.fullText ↔ r.IsAlone regions) ∧
      (document.slice? r.span.start r.span.stop ≠ some r.fullText →
        r.fullText.byteLength < r.span.stop - r.span.start) ∧
      ((r.surroundings? document).isSome ↔ r.IsAlone regions)) ∧
    ((regions.Pairwise fun r s => r.span.Disjoint s.span) →
      ∀ (entries done rest : List (Region × Text)) (entry : Region × Text),
        entries.map Prod.fst = regions → latestFirst entries = done ++ entry :: rest →
          (entry.1.surroundings? (splicedBy document done)).isSome) := by
  constructor
  · intro k r hk
    obtain ⟨front, inside, back, hr⟩ := isNumber_of_scan h hk
    have hplace : document.slice? r.span.start r.span.stop = some r.fullText ↔
        r.isInPlace document = true := by rw [Region.isInPlace, beq_iff_eq]
    have hcontent := isInPlace_iff_content h hk hr
    have halone := isAlone_iff h hk hr
    refine ⟨front, inside, back, hr, hplace.trans hcontent,
      hplace.trans (hcontent.trans halone.symm), fun hne => ?_, ?_⟩
    · have htext := (isShaped_of_scan h r (List.mem_of_getElem? hk)).text
      refine hr.byteLength_fullText_lt htext fun heq => hne ?_
      exact hplace.2 ((hr.isInPlace_iff_bodyLines htext).2 heq)
    · rw [r.isSome_surroundings]
      exact hcontent.trans halone.symm
  · intro hdisjoint entries done rest entry hregions hentries
    rw [entry.1.isSome_surroundings]
    exact isInPlace_of_disjoint h hdisjoint hregions hentries

/-- A region that overlaps another one, and the second splice of two regions apart. -/
theorem in_place_iff_alone_samples :
    (∃ regions r, scan .tracks Sample.overlappingDocument = .ok regions ∧ regions[0]? = some r ∧
      r.bodyLines = ["stale tracks".toList] ∧ r.fullText.byteLength < r.span.stop - r.span.start ∧
      ¬ r.IsAlone regions) ∧
    ∃ r s, scan .tracks Sample.crossedTwiceDocument = .ok [r, s] ∧ r.span.Disjoint s.span ∧
      (r.surroundings? (splicedBy Sample.crossedTwiceDocument [(s, "both".toList)])).isSome := by
  constructor
  · obtain ⟨regions, hscan, hfound⟩ : ∃ regions,
        scan .tracks Sample.overlappingDocument = .ok regions ∧
          decide (regions.map Region.bodyLines = [["stale tracks".toList], [[], "inner".toList]] ∧
            ∀ r ∈ regions, Sample.overlappingDocument.slice? r.span.start r.span.stop ≠
              some r.fullText) = true := exists_ok_of_any (by decide +kernel)
    obtain ⟨hbodies, hplaces⟩ := of_decide_eq_true hfound
    match regions, hscan, hbodies, hplaces with
    | r :: others, hscan, hbodies, hplaces =>
      have hplace := hplaces r List.mem_cons_self
      obtain ⟨_, _, _, -, -, halone, hshorter, -⟩ := (in_place_iff_alone _ _ _ hscan).1 0 r rfl
      exact ⟨_, r, hscan, rfl, (List.cons.inj hbodies).1, hshorter hplace,
        fun h => hplace (halone.2 h)⟩
  · obtain ⟨regions, hscan, hfound⟩ : ∃ regions,
        scan .tracks Sample.crossedTwiceDocument = .ok regions ∧
          decide (regions.length = 2 ∧ regions.Pairwise fun r s => r.span.Disjoint s.span) = true :=
      exists_ok_of_any (by decide +kernel)
    obtain ⟨hlength, hdisjoint⟩ := of_decide_eq_true hfound
    obtain ⟨r, s, rfl⟩ := List.length_eq_two.1 hlength
    refine ⟨r, s, hscan, List.rel_of_pairwise_cons hdisjoint (by simp), ?_⟩
    refine (in_place_iff_alone _ _ _ hscan).2 hdisjoint [(r, "one".toList), (s, "both".toList)]
      [(s, "both".toList)] [] (r, "one".toList) rfl ?_
    have hascend := List.rel_of_pairwise_cons (spans_ascend hscan) (List.mem_singleton_self s)
    simp [latestFirst, insertLatestFirst, Nat.not_le.2 hascend.1]

end ListeningCharts
