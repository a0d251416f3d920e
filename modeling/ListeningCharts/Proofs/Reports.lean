import ListeningCharts.Proofs.Numbering
import ListeningCharts.Proofs.Requests

/-! # The reports of an update

    An update reports on a region while its family is processed, so the line of a report is that of a
    text in between: the families before that of the region are rendered, the others are not. If the
    spans are pairwise disjoint, both that text and the updated one are the document with spans
    replaced, and the reports are told from the document (`region_reports`).

    * **Flat** outlines have no region inside another one, so after some passes each region shows
      either its new lines or its own body (`Outline.IsFlat.renderedAll_eq`).
    * A region stands behind **what has become of the lines in front of it**
      (`Outline.Edited.exists_moved`). From there its line is counted, and there it is found by the
      scan of its family.
-/

namespace ListeningCharts

/-- The spans of the regions of some families, each with the region rendered from the reply to the
    fetch for it. -/
def renderedSpans (options : UpdateOptions) (families : List Family)
    (replies : List (Region × Listing)) : List (Span × Text) :=
  (replies.filter fun entry => decide (entry.1.family ∈ families)).map fun entry =>
    (entry.1.span, entry.1.render entry.2 options)

theorem mem_renderedSpans {options : UpdateOptions} {families : List Family}
    {replies : List (Region × Listing)} {edit : Span × Text} :
    edit ∈ renderedSpans options families replies ↔ ∃ entry ∈ replies,
      entry.1.family ∈ families ∧ (entry.1.span, entry.1.render entry.2 options) = edit := by
  simp [renderedSpans, and_assoc]

/-- What the report on a region says, if the regions of a document are fetched with `replies`. At the
    span of the region the document has the text `old`, and in the updated document the text `new`
    stands in its place. The line is counted in the document in which the regions of the families
    before that of the region are rendered, and no others. -/
structure RegionUpdate.Describes (report : RegionUpdate) (options : UpdateOptions)
    (document updated : Text) (replies : List (Region × Listing)) (r : Region) (listing : Listing)
    (before old after new : Text) : Prop where
  family : report.family = r.family
  startMarker : report.startMarker = r.startMarker
  records : report.records = listing.length
  document_eq : document = before ++ old ++ after
  span_eq : r.span = ⟨before.byteLength, before.byteLength + old.byteLength⟩
  updated_eq : updated = before.replaceSpans (renderedSpans options Family.all replies) ++ new ++
    Text.replaceFrom (renderedSpans options Family.all replies) r.span.stop after
  changed_iff : report.changed = true ↔ old ≠ new
  earlier_eq : document.replaceSpans (renderedSpans options r.family.earlier replies) =
    before.replaceSpans (renderedSpans options r.family.earlier replies) ++ old ++
      Text.replaceFrom (renderedSpans options r.family.earlier replies) r.span.stop after
  line_eq : report.line =
    (before.replaceSpans (renderedSpans options r.family.earlier replies)).count '\n' + 1
  startMarker_at_line : (document.replaceSpans
    (renderedSpans options r.family.earlier replies)).lines[report.line - 1]? = some r.startMarker

namespace Outline

variable {offset : Nat} {f : Family} {families : List Family} {shown : Region → List Text}

/-! ## Flat outlines -/

/-- No region of the outline lies inside another one. -/
def IsFlat : Outline → Prop
  | nil => True
  | line _ rest => rest.IsFlat
  | region _ body rest => body.regions = [] ∧ rest.IsFlat

theorem eq_ofLines {o : Outline} (h : o.regions = []) : o = ofLines o.lines := by
  induction o with
  | nil => rfl
  | line text rest ih =>
    show line text rest = line text (ofLines rest.lines)
    rw [← ih h]
  | region r body rest _ _ => cases h

/-- An outline is flat if its regions are pairwise disjoint. -/
theorem IsLocated.isFlat {o : Outline} (h : o.IsLocated offset)
    (hdisjoint : ∀ r ∈ o.regions, ∀ s ∈ o.regions, r ≠ s → r.span.Disjoint s.span) : o.IsFlat := by
  induction o generalizing offset with
  | nil => trivial
  | line text rest ih => exact ih h hdisjoint
  | region r body rest _ ihRest =>
    obtain ⟨-, -, -, hin, -⟩ := h.parts
    constructor
    · -- a region in the body would overlap the one around it
      apply List.eq_nil_iff_forall_not_mem.2
      intro s hs
      obtain ⟨hstart, hlt, hstop⟩ := hin s hs
      have hne : r ≠ s := by
        rintro rfl
        omega
      have hapart := hdisjoint r List.mem_cons_self s
        (List.mem_cons_of_mem _ (List.mem_append_left _ hs)) hne
      simp only [Span.Disjoint] at hapart
      omega
    · apply ihRest h.2.2
      intro s hs s' hs'
      exact hdisjoint s (List.mem_cons_of_mem _ (List.mem_append_right _ hs)) s'
        (List.mem_cons_of_mem _ (List.mem_append_right _ hs'))

theorem IsFlat.mem_roots {o : Outline} (h : o.IsFlat) : ∀ r ∈ o.regions, r ∈ o.roots := by
  induction o with
  | nil => exact fun _ hr => hr
  | line text rest ih => exact ih h
  | region r body rest _ ihRest =>
    obtain ⟨hbody, hrest⟩ := h
    intro s hs
    rw [regions, hbody, List.nil_append] at hs
    rcases List.mem_cons.1 hs with rfl | hs
    · exact List.mem_cons_self
    · exact List.mem_cons_of_mem _ (ihRest hrest s hs)

theorem IsValid.isPlain {o : Outline} (h : o.IsValid) (hregions : o.regions = []) :
    ∀ l ∈ o.lines, IsPlain l := by
  induction o with
  | nil => simp [lines]
  | line text rest ih => exact List.forall_mem_cons.2 ⟨h.1, ih h.2 hregions⟩
  | region r body rest _ _ => cases hregions

/-- The bodies of the regions of a flat outline are plain. -/
theorem IsFlat.isPlain_bodyLines {o : Outline} (h : o.IsFlat) (hvalid : o.IsValid)
    (hlocated : o.IsLocated offset) : ∀ r ∈ o.roots, ∀ l ∈ r.bodyLines, IsPlain l := by
  induction o generalizing offset with
  | nil => simp [roots]
  | line text rest ih => exact ih h hvalid.2 hlocated
  | region r body rest _ ihRest =>
    obtain ⟨hbody, hrest⟩ := h
    have hlines : body.lines = r.bodyLines := congrArg Region.bodyLines hlocated.1
    intro s hs
    rcases List.mem_cons.1 hs with heq | hs
    · rw [heq, ← hlines]
      exact hvalid.2.2.1.isPlain hbody
    · exact ihRest hrest hvalid.2.2.2 hlocated.2.2 s hs

/-- What the regions show once some families are rendered; the others show their bodies. -/
def shownAfter (families : List Family) (shown : Region → List Text) (r : Region) : List Text :=
  if r.family ∈ families then shown r else r.bodyLines

theorem shownAfter_all (shown : Region → List Text) : shownAfter Family.all shown = shown :=
  funext fun r => if_pos r.family.mem_all

/-- **Some passes settle a flat outline**, in which the families that are not rendered are as they
    were. -/
theorem IsFlat.renderedAll_eq {o : Outline} (h : o.IsFlat) (hlocated : o.IsLocated offset) :
    o.renderedAll families shown = o.settled (shownAfter families shown) := by
  induction o generalizing offset with
  | nil => exact renderedAll_nil families
  | line text rest ih => rw [renderedAll_line, ih h hlocated, settled]
  | region r body rest _ ihRest =>
    obtain ⟨hbody, hrest⟩ := h
    obtain ⟨hfound, -, hlocated⟩ := hlocated
    have hlines : body.lines = r.bodyLines := congrArg Region.bodyLines hfound
    rw [renderedAll_region, ihRest hrest hlocated, settled, eq_ofLines hbody, renderedAll_ofLines,
      hlines, shownAfter]
    congr 1
    split <;> rfl

/-- A flat outline stays valid when some of its regions show plain lines and the others their
    bodies. -/
theorem IsFlat.isValid_settled {o : Outline} (h : o.IsFlat) (hvalid : o.IsValid)
    (hlocated : o.IsLocated offset) (hplain : ∀ r ∈ o.roots, ∀ l ∈ shown r, IsPlain l)
    (families : List Family) : (o.settled (shownAfter families shown)).IsValid := by
  apply hvalid.settled
  intro r hr
  rw [shownAfter]
  split
  · exact hplain r hr
  · exact h.isPlain_bodyLines hvalid hlocated r hr

/-- The regions of a family are the same in a flat outline and in a settled one. -/
theorem IsFlat.nodes_settled {o : Outline} (h : o.IsFlat) (f : Family) :
    (o.settled shown).nodes [] f = o.nodes [] f := by
  induction o with
  | nil => rfl
  | line text rest ih => exact ih h
  | region r body rest _ ihRest =>
    obtain ⟨hbody, hrest⟩ := h
    rw [settled, nodes, nodes, ihRest hrest, nodes_ofLines, eq_ofLines hbody, nodes_ofLines]

/-- A document with disjoint regions is the text of a flat outline of its regions. -/
theorem exists_of_disjoint {document : Text} {rs : List Region}
    (hscan : scanAll document = .ok rs)
    (hdisjoint : rs.Pairwise fun r r' => r.span.Disjoint r'.span) :
    ∃ o : Outline, o.IsValid ∧ o.lines ≠ [] ∧ o.IsLocated 0 ∧ o.IsFlat ∧
      document = Text.joinLines o.lines ∧ rs = Family.all.flatMap (o.nodes []) := by
  obtain ⟨o, hvalid, hne, hlocated, rfl, rfl⟩ :=
    exists_of_laminar hscan (laminar_of_disjoint hdisjoint)
  refine ⟨o, hvalid, hne, hlocated, hlocated.isFlat fun r hr r' hr' hne' => ?_, rfl, rfl⟩
  exact disjoint_of_pairwise hdisjoint ((mem_flatMap_nodes hvalid).2 hr)
    ((mem_flatMap_nodes hvalid).2 hr') hne'

/-! ## Regions that are moved -/

namespace Edited

variable {edits : List (Span × Text)} {o : Outline}

/-- At the span of a region at the top stands what it shows. -/
theorem replaceFrom_fullText (h : Edited edits shown offset o) (hlocated : o.IsLocated offset) :
    ∀ r ∈ o.roots, Text.replaceFrom edits r.span.start r.fullText =
      Region.textOf r.startMarker (shown r) r.endMarker := by
  induction o generalizing offset with
  | nil => simp [roots]
  | line text rest ih => exact ih (h.of_line hlocated).2 hlocated
  | region r body rest _ ihRest =>
    intro s hs
    rcases List.mem_cons.1 hs with heq | hs
    · have hfound := hlocated.1
      have hstart : r.span.start = offset := hlocated.parts.1
      have htext : r.fullText = Region.textOf r.startMarker body.lines r.endMarker :=
        congrArg Region.fullText hfound.symm
      rw [heq, hstart, htext, h.replaceFrom_front hlocated]
    · exact ihRest (h.of_region hlocated) hlocated.2.2 s hs

end Edited

/-- A region at the top of an outline, with the lines in front of it and behind it. -/
structure IsAt (offset : Nat) (o : Outline) (r : Region) (front back : List Text) : Prop where
  lines_eq : o.lines = front ++ (r.startMarker :: r.bodyLines ++ [r.endMarker]) ++ back
  located : r.found r.bodyLines (offset + (Text.unlines front).byteLength) = r
  root : r ∈ o.roots

namespace IsAt

variable {o : Outline} {r : Region} {front back : List Text}

theorem textOf_eq (h : IsAt offset o r front back) :
    Region.textOf r.startMarker r.bodyLines r.endMarker = r.fullText :=
  congrArg Region.fullText h.located

theorem span_eq (h : IsAt 0 o r front back) : r.span =
    ⟨(Text.unlines front).byteLength, (Text.unlines front).byteLength + r.fullText.byteLength⟩ := by
  have hspan := congrArg Region.span h.located
  rw [← hspan, ← h.textOf_eq, Nat.zero_add]
  rfl

theorem joinLines_eq (h : IsAt offset o r front back) :
    Text.joinLines o.lines = Text.unlines front ++ r.fullText ++ Text.onlines back := by
  rw [h.lines_eq, Text.joinLines_append_append _ (by simp), ← h.textOf_eq]
  rfl

/-- Replacing spans at the top puts what the region shows between what it makes of the text in front
    of the region and of the text behind it. -/
theorem replaceSpans_eq (h : IsAt 0 o r front back) {edits : List (Span × Text)}
    (hedited : Edited edits shown 0 o) (hlocated : o.IsLocated 0) :
    (Text.joinLines o.lines).replaceSpans edits = (Text.unlines front).replaceSpans edits ++
      Region.textOf r.startMarker (shown r) r.endMarker ++
      Text.replaceFrom edits r.span.stop (Text.onlines back) := by
  rw [h.joinLines_eq, Text.replaceSpans, Text.replaceFrom_append, Text.replaceFrom_append,
    ← hedited.replaceFrom_fullText hlocated r h.root, Text.byteLength_append, Nat.zero_add,
    Nat.zero_add, h.span_eq]
  rfl

end IsAt

/-- What has become of the lines around a region in the settled outline. -/
structure Moved (edits : List (Span × Text)) (shown : Region → List Text) (offset : Nat)
    (o : Outline) (r : Region) (front back front' back' : List Text) : Prop extends
    IsAt offset o r front back where
  settled_eq : (o.settled shown).lines =
    front' ++ (r.startMarker :: shown r ++ [r.endMarker]) ++ back'
  front_eq : Text.replaceFrom edits offset (Text.unlines front) = Text.unlines front'

/-- The lines of a region in front of other lines. -/
theorem byteLength_unlines_region (r : Region) (bodyLines texts : List Text) :
    (Text.unlines (r.startMarker :: bodyLines ++ [r.endMarker] ++ texts)).byteLength =
      (Region.textOf r.startMarker bodyLines r.endMarker).byteLength + 1 +
        (Text.unlines texts).byteLength := by
  rw [Text.unlines_append, ← Region.textOf_append_lineFeed]
  simp
  omega

namespace Moved

variable {edits : List (Span × Text)} {r s : Region} {body rest : Outline} {text : Text}
  {front back front' back' : List Text}

/-- The region in front stands behind no line. -/
theorem first (edits : List (Span × Text)) (hlocated : (region r body rest).IsLocated offset) :
    Moved edits shown offset (region r body rest) r [] rest.lines []
      (rest.settled shown).lines := by
  have hfound := hlocated.1
  have hbody : body.lines = r.bodyLines := congrArg Region.bodyLines hfound
  refine ⟨⟨?_, ?_, List.mem_cons_self⟩, ?_, rfl⟩
  · rw [lines, hbody]
    rfl
  · rwa [hbody] at hfound
  · rw [settled, lines, lines_ofLines]
    rfl

/-- A line in front of an outline stays in front of its regions. -/
theorem of_line (h : Moved edits shown (offset + text.byteLength + 1) rest s front back front' back')
    (hedited : Edited edits shown offset (line text rest))
    (hlocated : (line text rest).IsLocated offset) :
    Moved edits shown offset (line text rest) s (text :: front) back (text :: front') back' := by
  refine ⟨⟨?_, ?_, h.root⟩, ?_, ?_⟩
  · rw [lines, h.lines_eq]
    rfl
  · rw [Text.byteLength_unlines_cons, ← Nat.add_assoc, ← Nat.add_assoc]
    exact h.located
  · rw [settled, lines, h.settled_eq]
    rfl
  · have hsplit : Text.unlines (text :: front) = (text ++ ['\n']) ++ Text.unlines front := by simp
    have hsize : (text ++ ['\n']).byteLength = text.byteLength + 1 := by simp
    rw [hsplit, Text.replaceFrom_append, (hedited.of_line hlocated).1, hsize, ← Nat.add_assoc,
      h.front_eq]
    simp

/-- A region in front of an outline gives way to what it shows, in front of the other regions. -/
theorem of_region (h : Moved edits shown
      (offset + (Region.textOf r.startMarker body.lines r.endMarker).byteLength + 1) rest s front
      back front' back')
    (hedited : Edited edits shown offset (region r body rest))
    (hlocated : (region r body rest).IsLocated offset) :
    Moved edits shown offset (region r body rest) s
      (r.startMarker :: body.lines ++ [r.endMarker] ++ front) back
      (r.startMarker :: shown r ++ [r.endMarker] ++ front') back' := by
  refine ⟨⟨?_, ?_, List.mem_cons_of_mem _ h.root⟩, ?_, ?_⟩
  · rw [lines, h.lines_eq]
    simp
  · rw [byteLength_unlines_region, ← Nat.add_assoc, ← Nat.add_assoc]
    exact h.located
  · rw [settled, lines, lines_ofLines, h.settled_eq]
    simp
  · have hfeed := hedited.replaceFrom_lineFeed hlocated
    rw [hlocated.parts.2.2.1] at hfeed
    rw [Text.unlines_append, ← Region.textOf_append_lineFeed, Text.replaceFrom_append,
      Text.replaceFrom_append, hedited.replaceFrom_front hlocated, hfeed, Text.byteLength_append,
      ← Nat.add_assoc]
    show _ ++ Text.replaceFrom edits (_ + 1) _ = _
    rw [h.front_eq, Text.unlines_append, ← Region.textOf_append_lineFeed]

end Moved

/-- **A region stands behind what has become of the lines in front of it**: there it is found in the
    settled outline, if that starts at byte `base`. -/
theorem Edited.exists_moved {edits : List (Span × Text)} {o : Outline}
    (h : Edited edits shown offset o) (hlocated : o.IsLocated offset) (base : Nat) :
    ∀ visit ∈ (o.settled shown).visits f base, ∃ front back front' back',
      Moved edits shown offset o visit.1 front back front' back' ∧
      visit.2 = visit.1.found (shown visit.1) (base + (Text.unlines front').byteLength) := by
  -- on the outline: what stands in front of it is a line or a region, and either is replaced alone
  induction o generalizing offset base with
  | nil => simp [settled, visits]
  | line text rest ih =>
    intro visit hvisit
    obtain ⟨front, back, front', back', hmoved, hfound⟩ :=
      ih (h.of_line hlocated).2 hlocated _ visit hvisit
    refine ⟨_, _, _, _, hmoved.of_line h hlocated, ?_⟩
    rw [Text.byteLength_unlines_cons, ← Nat.add_assoc, ← Nat.add_assoc]
    exact hfound
  | region r body rest _ ihRest =>
    intro visit hvisit
    rw [settled] at hvisit
    rcases visits_cases hvisit with rfl | hvisit | hvisit
    · refine ⟨_, _, _, _, Moved.first edits hlocated, ?_⟩
      rw [lines_ofLines]
      rfl
    · rw [visits_ofLines] at hvisit
      cases hvisit
    · rw [lines_ofLines] at hvisit
      obtain ⟨front, back, front', back', hmoved, hfound⟩ :=
        ihRest (h.of_region hlocated) hlocated.2.2 _ visit hvisit
      refine ⟨_, _, _, _, hmoved.of_region h hlocated, ?_⟩
      rw [byteLength_unlines_region, ← Nat.add_assoc, ← Nat.add_assoc]
      exact hfound

section Passes

variable {options : UpdateOptions} {reply : Region → Listing} {o : Outline} {rs : List Region}

/-- The regions of some families, rendered at their spans, edit a flat outline. -/
theorem edited_renderedSpans (hlocated : o.IsLocated 0) (hflat : o.IsFlat)
    (hmem : ∀ r, r ∈ rs ↔ r ∈ o.regions) (hnodup : rs.Nodup)
    (hdisjoint : rs.Pairwise fun r s => r.span.Disjoint s.span) (families : List Family) :
    Edited (renderedSpans options families (rs.map fun r => (r, reply r)))
      (shownAfter families (shownBy options reply)) 0 o := by
  have hrender : ∀ r : Region, r.family ∈ families →
      Region.textOf r.startMarker (shownAfter families (shownBy options reply) r) r.endMarker =
        r.render (reply r) options := by
    intro r hr
    rw [shownAfter, if_pos hr, Region.render_eq]
    rfl
  have hedit : ∀ edit, edit ∈ renderedSpans options families (rs.map fun r => (r, reply r)) ↔
      ∃ r ∈ rs, r.family ∈ families ∧ (r.span, r.render (reply r) options) = edit := by
    intro edit
    rw [mem_renderedSpans]
    simp
  constructor
  · -- regions that are not empty and disjoint have different spans
    apply List.Nodup.map_on
    · intro entry hentry entry' hentry' heq
      obtain ⟨r, hr, rfl⟩ := List.mem_map.1 (List.mem_filter.1 hentry).1
      obtain ⟨r', hr', rfl⟩ := List.mem_map.1 (List.mem_filter.1 hentry').1
      have hspan : r.span = r'.span := congrArg Prod.fst heq
      by_contra hne
      have hapart := disjoint_of_pairwise hdisjoint hr hr' fun h => hne (by rw [h])
      have hlt := (hlocated.within r ((hmem r).1 hr)).2.1
      rw [← hspan] at hapart
      simp only [Span.Disjoint] at hapart
      omega
    · exact (hnodup.map fun r r' heq => congrArg Prod.fst heq).filter _
  · intro r hr
    by_cases hf : r.family ∈ families
    · left
      rw [hrender r hf]
      exact (hedit _).2 ⟨r, (hmem r).2 (mem_regions_of_mem_roots r hr), hf, rfl⟩
    · exact .inr (if_neg hf)
  · intro edit hmemEdit
    obtain ⟨r, hr, hf, rfl⟩ := (hedit edit).1 hmemEdit
    exact .inl ⟨r, hflat.mem_roots r ((hmem r).1 hr), by rw [hrender r hf]⟩

/-- What the scans of all passes find, each of them in the outline that the passes before it left. -/
def visitsAll (shown : Region → List Text) (o : Outline) : List (Region × Region) :=
  Family.all.flatMap fun f => (o.renderedAll f.earlier shown).visits f 0

theorem mem_visitsAll {visit : Region × Region} (h : visit ∈ o.visitsAll shown) :
    visit ∈ (o.renderedAll visit.1.family.earlier shown).visits visit.1.family 0 := by
  obtain ⟨f, -, hvisit⟩ := List.mem_flatMap.1 h
  rwa [family_of_mem_visits visit hvisit]

/-- The passes find each region of a flat outline, in the order in which a scan of the document
    does. -/
theorem IsFlat.map_fst_visitsAll (h : o.IsFlat) (hlocated : o.IsLocated 0) :
    (o.visitsAll shown).map Prod.fst = Family.all.flatMap (o.nodes []) := by
  rw [visitsAll, List.map_flatMap]
  congr 1
  funext f
  rw [map_fst_visits, h.renderedAll_eq hlocated, h.nodes_settled]

/-- The report of a pass on what its scan found. -/
def reportOn (options : UpdateOptions) (reply : Region → Listing) (o : Outline)
    (visit : Region × Region) : RegionUpdate :=
  visit.2.report
    (Text.joinLines (o.renderedAll visit.1.family.earlier (shownBy options reply)).lines) options
    (reply visit.1)

theorem reportsAll_all (options : UpdateOptions) (reply : Region → Listing) (o : Outline) :
    reportsAll options reply Family.all o =
      (o.visitsAll (shownBy options reply)).map (o.reportOn options reply) := by
  have hpasses : reportsAll options reply Family.all o = Family.all.flatMap fun f =>
      (o.renderedAll f.earlier (shownBy options reply)).reports f options reply := by
    simp [reportsAll, Family.all, Family.earlier, renderedAll]
  rw [hpasses, visitsAll, List.map_flatMap]
  congr 1
  funext f
  apply List.map_congr_left
  intro visit hvisit
  rw [reportOn, family_of_mem_visits visit hvisit]

/-- **The report of a pass on a region**: it is read off in the outline that the passes before it left,
    and told from the document. -/
theorem describes_report (hvalid : o.IsValid) (hne : o.lines ≠ []) (hlocated : o.IsLocated 0)
    (hflat : o.IsFlat)
    (hplain : ∀ r ∈ o.roots, ∀ l ∈ shownBy options reply r, IsPlain l)
    (hedited : ∀ families, Edited (renderedSpans options families (rs.map fun r => (r, reply r)))
      (shownAfter families (shownBy options reply)) 0 o) :
    ∀ visit ∈ o.visitsAll (shownBy options reply), ∃ before old after new,
      (o.reportOn options reply visit).Describes options (Text.joinLines o.lines)
        (Text.joinLines (o.settled (shownBy options reply)).lines)
        (rs.map fun r => (r, reply r)) visit.1 (reply visit.1) before old after new := by
  intro visit hvisit
  have hvisit := mem_visitsAll hvisit
  rw [reportOn]
  rw [hflat.renderedAll_eq hlocated] at hvisit ⊢
  obtain ⟨front, back, front', back', hmoved, hfound⟩ :=
    (hedited visit.1.family.earlier).exists_moved hlocated 0 visit hvisit
  obtain ⟨r, found⟩ := visit
  dsimp only at hmoved hfound ⊢
  -- the region itself is not rendered yet, so the scan finds it with its own body
  have hown : shownAfter r.family.earlier (shownBy options reply) r = r.bodyLines :=
    if_neg r.family.not_mem_earlier
  have hall := shownAfter_all (shownBy options reply)
  have hsettled := hflat.isValid_settled hvalid hlocated hplain r.family.earlier
  have hone : ∀ l ∈ front', '\n' ∉ l := by
    intro l hl
    apply hsettled.one
    rw [hmoved.settled_eq]
    simp [hl]
  have hline : found.lineIn (Text.joinLines
      (o.settled (shownAfter r.family.earlier (shownBy options reply))).lines) =
        front'.length + 1 := by
    rw [hmoved.settled_eq, List.append_assoc]
    exact Region.lineIn_joinLines (by simp) hone (by rw [hfound, Nat.zero_add]; rfl)
  refine ⟨Text.unlines front, r.fullText, Text.onlines back, r.render (reply r) options,
    ?_, ?_, rfl, hmoved.joinLines_eq, hmoved.span_eq, ?_, ?_, ?_, ?_, ?_⟩
  · rw [hfound]
    rfl
  · rw [hfound]
    rfl
  · rw [← hall, ← replaceSpans_eq hne hlocated (hedited _),
      hmoved.replaceSpans_eq (hedited _) hlocated, hall, Region.render_eq]
    rfl
  · have hsame : found.render (reply r) options = r.render (reply r) options := by
      rw [hfound]
      rfl
    have htext : found.fullText = r.fullText := by
      rw [hfound, hown, ← hmoved.textOf_eq]
      rfl
    show (found.render (reply r) options != found.fullText) = true ↔ _
    rw [hsame, htext, bne_iff_ne, ne_comm]
  · rw [hmoved.replaceSpans_eq (hedited _) hlocated, hown, hmoved.textOf_eq]
  · show found.lineIn _ = _
    rw [hline, Text.replaceSpans, hmoved.front_eq, Text.count_lineFeed_unlines hone]
  · show ((Text.joinLines o.lines).replaceSpans _).lines[found.lineIn _ - 1]? = _
    rw [hline, replaceSpans_eq hne hlocated (hedited _), Nat.add_sub_cancel,
      Text.lines_joinLines (lines_settled_ne_nil hne) hsettled.one, hmoved.settled_eq]
    simp

end Passes

end Outline

/-! ## The reports -/

/-- **Per-region reports**: if the spans of a document's regions are pairwise disjoint, and the fetches
    for them succeed with marker-free replies, then the update succeeds, and it reports on each
    region in their order.

    * The updated document is the document with the span of each region replaced by the region
      rendered from the reply to it.
    * A report has the family and the start marker of the region, and the number of records in the
      reply.
    * It tells of a change if and only if the text of the document at the span differs from the text
      that stands in its place in the updated document.
    * Its line is that of the start marker in the document in which exactly the regions of the
      families before that of the region are replaced. -/
theorem region_reports {σ : Type} (source : Source σ) (options : UpdateOptions) (document : Text)
    (regions : List Region) (listings : List Listing) (s s' : σ)
    (hscan : scanAll document = .ok regions)
    (hdisjoint : regions.Pairwise fun r r' => r.span.Disjoint r'.span)
    (hfetch : regions.mapM (fetch source options) s = (.ok listings, s'))
    (hfree : ∀ entry ∈ regions.zip listings, entry.1.MarkerFree entry.2 options) :
    ∃ u, computeUpdate source options document s = (.ok u, s') ∧
      u.updated = document.replaceSpans
        (renderedSpans options Family.all (regions.zip listings)) ∧
      listings.length = regions.length ∧ u.regions.length = regions.length ∧
      ∀ (i : Nat) (r : Region) (listing : Listing), regions[i]? = some r →
        listings[i]? = some listing → ∃ report before old after new,
          u.regions[i]? = some report ∧
          report.Describes options document u.updated (regions.zip listings) r listing
            before old after new := by
  have hnodup := nodup_of_scanAll hscan
  have hall := requested_of_disjoint hscan hdisjoint
  obtain ⟨o, hvalid, hne, hlocated, hflat, rfl, rfl⟩ := Outline.exists_of_disjoint hscan hdisjoint
  have hmem : ∀ r, r ∈ Family.all.flatMap (o.nodes []) ↔ r ∈ o.regions :=
    fun r => Outline.mem_flatMap_nodes hvalid
  rw [← hall] at hfetch hfree
  obtain ⟨reply, rfl, hplain, hrun⟩ :=
    Outline.exists_reply_of_requested hvalid hne hlocated hnodup hfetch hfree
  rw [← Outline.requested_eq_requests hvalid hlocated] at hplain
  rw [hall] at hplain ⊢
  have hedited : ∀ families, Outline.Edited
      (renderedSpans options families
        ((Family.all.flatMap (o.nodes [])).map fun r => (r, reply r)))
      (Outline.shownAfter families (Outline.shownBy options reply)) 0 o :=
    Outline.edited_renderedSpans hlocated hflat hmem hnodup hdisjoint
  have hupdated := Outline.replaceSpans_eq hne hlocated (hedited Family.all)
  rw [Outline.shownAfter_all] at hupdated
  have hroots : ∀ r ∈ o.roots, ∀ l ∈ Outline.shownBy options reply r, IsPlain l :=
    fun r hr => hplain r ((hmem r).2 (Outline.mem_regions_of_mem_roots r hr))
  have hfound : (o.visitsAll (Outline.shownBy options reply)).map Prod.fst =
      Family.all.flatMap (o.nodes []) := hflat.map_fst_visitsAll hlocated
  rw [← List.map_prod_left_eq_zip]
  refine ⟨_, hrun, hupdated.symm, List.length_map _, ?_, ?_⟩
  · rw [Outline.reportsAll_all, List.length_map, ← hfound, List.length_map]
  · intro i r listing hr hlisting
    rw [← hfound, List.getElem?_map, Option.map_eq_some_iff] at hr
    obtain ⟨visit, hvisit, rfl⟩ := hr
    rw [← hfound, List.getElem?_map, List.getElem?_map, hvisit] at hlisting
    obtain rfl : reply visit.1 = listing := Option.some.inj hlisting
    obtain ⟨before, old, after, new, hdescribes⟩ := Outline.describes_report hvalid hne hlocated
      hflat hroots hedited visit (List.mem_of_getElem? hvisit)
    refine ⟨_, before, old, after, new, ?_, hdescribes⟩
    rw [Outline.reportsAll_all, List.getElem?_map, hvisit]
    rfl

/-- The reports on the profile document: the second region is reported one line further down than it
    was, the third one four lines. -/
theorem region_reports_profile :
    ∃ regions listings u, scanAll Sample.profileDocument = .ok regions ∧ regions.length = 3 ∧
      listings.length = 3 ∧
      computeUpdate (Sample.steady Sample.profile) Sample.options Sample.profileDocument () =
        (.ok u, ()) ∧
      u.regions.map RegionUpdate.line = [5, 12, 18] ∧
      ∀ (i : Nat) (r : Region) (listing : Listing), regions[i]? = some r →
        listings[i]? = some listing → ∃ report before old after new,
          u.regions[i]? = some report ∧
          report.Describes Sample.options Sample.profileDocument u.updated (regions.zip listings)
            r listing before old after new := by
  obtain ⟨regions, hscan, h⟩ : ∃ regions, scanAll Sample.profileDocument = .ok regions ∧
      decide ((regions.Pairwise fun r r' => r.span.Disjoint r'.span) ∧
        (regions.mapM (fetch (Sample.steady Sample.profile) Sample.options) ()).1 =
          .ok [Sample.profile .tracks, Sample.profile .recent, Sample.profile .userInfo]) = true :=
    exists_ok_of_any (by decide +kernel)
  obtain ⟨hdisjoint, houtcome⟩ := of_decide_eq_true h
  have hfetch : regions.mapM (fetch (Sample.steady Sample.profile) Sample.options) () =
      (.ok [Sample.profile .tracks, Sample.profile .recent, Sample.profile .userInfo], ()) :=
    Prod.ext houtcome rfl
  have hlength := (Run.forall₂_of_mapM hfetch).length_eq
  have htexts : ∀ listing ∈ [Sample.profile .tracks, Sample.profile .recent,
      Sample.profile .userInfo], ∀ t ∈ listing.texts, '\n' ∉ t := by decide +kernel
  obtain ⟨u, hrun, -, -, -, hreports⟩ := region_reports _ _ _ _ _ _ _ hscan hdisjoint hfetch
    fun entry hentry => entry.1.markerFree_of_oneLine Sample.ofLocale_formats (by decide)
      (by decide) (htexts _ (List.of_mem_zip hentry).2)
  obtain ⟨v, hv, hlines⟩ : ∃ v, computeUpdate (Sample.steady Sample.profile) Sample.options
      Sample.profileDocument () = (.ok v, ()) ∧
        decide (v.regions.map RegionUpdate.line = [5, 12, 18]) = true :=
    Run.exists_eq_ok (by decide +kernel) (Subsingleton.elim _ _)
  rw [hrun] at hv
  cases hv
  exact ⟨regions, _, u, hscan, hlength, rfl, hrun, of_decide_eq_true hlines, hreports⟩

end ListeningCharts
