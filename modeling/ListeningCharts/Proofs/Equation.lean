import ListeningCharts.Proofs.OneLine
import ListeningCharts.Proofs.Passes
import ListeningCharts.Proofs.Stretches
import Mathlib.Data.List.Nodup

/-! # The update of a laminar document

    In a laminar document every region lies inside one that lies in no other. An update replaces these
    outermost regions by what was rendered for them, and keeps every other byte
    (`update_equation`).

    * A fetch is made for each region that is not inside one of a family processed before
      (`requested`). That is every outermost region and some others, whose rendering is lost with
      the region around them.
    * Both kinds are told from the spans alone; in an outline they are the regions that the passes
      find (`requested_eq_requests`) and the ones at its top (`mem_roots_iff`).
-/

namespace ListeningCharts

/-! ## Which regions count -/

/-- The families that are processed before a family. -/
def Family.earlier (f : Family) : List Family := Family.all.takeWhile fun g => g != f

theorem Family.not_mem_earlier (f : Family) : f ∉ f.earlier := by cases f <;> decide

/-- Whether a region lies inside one of a family that is done. -/
def hidden (done : List Family) (regions : List Region) (r : Region) : Bool :=
  regions.any fun s => decide (s.family ∈ done) && decide (r.span.Within s.span)

/-- The regions that are still there when their family is processed, in the order in which they are
    processed. -/
def requested (regions : List Region) : List Region :=
  regions.filter fun r => !hidden r.family.earlier regions r

/-- The regions that lie inside no other one. -/
def outermost (regions : List Region) : List Region :=
  regions.filter fun r => regions.all fun s => decide (s = r) || !decide (r.span.Within s.span)

theorem hidden_iff {done : List Family} {regions : List Region} {r : Region} :
    hidden done regions r = true ↔ ∃ s ∈ regions, s.family ∈ done ∧ r.span.Within s.span := by
  simp [hidden]

theorem hidden_congr {done : List Family} {regions others : List Region} {r : Region}
    (h : ∀ s, s.family ∈ done → r.span.Within s.span → (s ∈ regions ↔ s ∈ others)) :
    hidden done regions r = hidden done others r := by
  rw [Bool.eq_iff_iff, hidden_iff, hidden_iff]
  constructor
  · rintro ⟨s, hs, hdone, hin⟩
    exact ⟨s, (h s hdone hin).1 hs, hdone, hin⟩
  · rintro ⟨s, hs, hdone, hin⟩
    exact ⟨s, (h s hdone hin).2 hs, hdone, hin⟩

theorem mem_outermost {regions : List Region} {r : Region} :
    r ∈ outermost regions ↔ r ∈ regions ∧ ∀ s ∈ regions, r.span.Within s.span → s = r := by
  simp only [outermost, List.mem_filter, List.all_eq_true, Bool.or_eq_true, decide_eq_true_eq,
    Bool.not_eq_true', decide_eq_false_iff_not]
  refine and_congr_right fun _ => forall₂_congr fun s _ => ?_
  rw [or_iff_not_imp_right, not_not]

/-- Two outermost regions have different spans. -/
theorem eq_of_outermost {regions : List Region} {r s : Region} (hr : r ∈ outermost regions)
    (hs : s ∈ outermost regions) (hspan : r.span = s.span) : r = s := by
  refine ((mem_outermost.1 hr).2 s (mem_outermost.1 hs).1 ?_).symm
  rw [hspan]
  exact ⟨Nat.le_refl _, Nat.le_refl _⟩

/-- A document has no region twice. -/
theorem nodup_of_scanAll {document : Text} {regions : List Region}
    (h : scanAll document = .ok regions) : regions.Nodup := by
  obtain ⟨found, hfound, rfl⟩ := scanAll_eq_ok_iff.1 h
  refine List.nodup_flatMap.2 ⟨fun f _ => ?_, ?_⟩
  -- regions of one family end one behind the other, and regions of two families differ in it
  · refine (scan_eq_ok_iff.1 (hfound f)).stops_ascend.imp fun hlt heq => ?_
    rw [heq] at hlt
    exact Nat.lt_irrefl _ hlt
  · have hall : Family.all.Nodup := by decide
    refine hall.imp fun {f g} hfg => ?_
    intro r hf hg
    exact hfg ((family_of_scan (hfound f) r hf).symm.trans (family_of_scan (hfound g) r hg))

namespace Outline

variable {offset : Nat} {f : Family}

/-! ## The regions of an outline -/

/-- Every region of an outline. -/
def regions : Outline → List Region
  | nil => []
  | line _ rest => rest.regions
  | region r body rest => r :: (body.regions ++ rest.regions)

/-- The regions of an outline that are not inside another one. -/
def roots : Outline → List Region
  | nil => []
  | line _ rest => rest.roots
  | region r _ rest => r :: rest.roots

theorem mem_regions_region {r s : Region} {body rest : Outline} :
    s ∈ (region r body rest).regions ↔ s = r ∨ s ∈ body.regions ∨ s ∈ rest.regions := by
  rw [regions, List.mem_cons, List.mem_append]

/-- The span of a located region. -/
theorem IsLocated.span_eq {r : Region} {body rest : Outline}
    (h : (region r body rest).IsLocated offset) : r.span =
      ⟨offset, offset + (Region.textOf r.startMarker body.lines r.endMarker).byteLength⟩ :=
  congrArg Region.span h.1.symm

/-- The regions of a located outline lie in its lines. -/
theorem IsLocated.within {o : Outline} (h : o.IsLocated offset) :
    ∀ r ∈ o.regions, offset ≤ r.span.start ∧ r.span.start < r.span.stop ∧
      r.span.stop < offset + o.size := by
  induction o generalizing offset with
  | nil => simp [regions]
  | line text rest ih =>
    intro r hr
    have := ih h r hr
    rw [size_line]
    omega
  | region r body rest ihBody ihRest =>
    have hsize := Region.byteLength_textOf r.startMarker body.lines r.endMarker
    intro s hs
    rw [size_region]
    rcases mem_regions_region.1 hs with rfl | hs | hs
    · rw [h.span_eq]
      show offset ≤ offset ∧ offset < offset + _ ∧ offset + _ < _
      omega
    · have hin := ihBody h.2.1 s hs
      rw [size] at hin
      omega
    · have := ihRest h.2.2 s hs
      omega

/-- Where the parts of an outline with a region in front lie. -/
theorem IsLocated.parts {r : Region} {body rest : Outline}
    (h : (region r body rest).IsLocated offset) :
    r.span.start = offset ∧ r.span.start < r.span.stop ∧
      r.span.stop = offset + (Region.textOf r.startMarker body.lines r.endMarker).byteLength ∧
      (∀ s ∈ body.regions, r.span.start < s.span.start ∧ s.span.start < s.span.stop ∧
        s.span.stop < r.span.stop) ∧
      ∀ s ∈ rest.regions, r.span.stop < s.span.start ∧ s.span.start < s.span.stop := by
  have hsize := Region.byteLength_textOf r.startMarker body.lines r.endMarker
  rw [h.span_eq]
  refine ⟨rfl, ?_, rfl, fun s hs => ?_, fun s hs => ?_⟩
  · show offset < offset + _
    omega
  · have hin := h.2.1.within s hs
    rw [size] at hin
    show offset < _ ∧ _ ∧ _ < offset + _
    omega
  · have := h.2.2.within s hs
    show offset + _ < _ ∧ _
    omega

theorem family_of_mem_nodes {done : List Family} {o : Outline} :
    ∀ r ∈ o.nodes done f, r.family = f := by
  induction o with
  | nil => simp [nodes]
  | line text rest ih => exact ih
  | region r body rest ihBody ihRest =>
    intro s hs
    rcases nodes_cases hs with ⟨rfl, hf⟩ | hs | hs
    · exact hf
    · exact ihBody s hs
    · exact ihRest s hs

/-- What a scan finds for a family is a region of that family. -/
theorem family_of_mem_visits {o : Outline} : ∀ visit ∈ o.visits f offset, visit.1.family = f := by
  intro visit hvisit
  apply family_of_mem_nodes visit.1
  rw [← map_fst_visits f offset]
  exact List.mem_map_of_mem hvisit

theorem mem_regions_of_mem_nodes {done : List Family} {o : Outline} :
    ∀ r ∈ o.nodes done f, r ∈ o.regions := by
  induction o with
  | nil => simp [nodes]
  | line text rest ih => exact ih
  | region r body rest ihBody ihRest =>
    intro s hs
    rcases nodes_cases hs with ⟨rfl, -⟩ | hs | hs
    · exact List.mem_cons_self
    · exact mem_regions_region.2 (.inr (.inl (ihBody s hs)))
    · exact mem_regions_region.2 (.inr (.inr (ihRest s hs)))

/-- The start marker of a region is a line of the outline. -/
theorem IsValid.startMarker_mem {o : Outline} (h : o.IsValid) :
    ∀ r ∈ o.regions, r.IsMarked ∧ r.startMarker ∈ o.lines := by
  induction o with
  | nil => simp [regions]
  | line text rest ih =>
    intro r hr
    exact ⟨(ih h.2 r hr).1, List.mem_cons_of_mem _ (ih h.2 r hr).2⟩
  | region r body rest ihBody ihRest =>
    obtain ⟨hmarked, -, hbody, hrest⟩ := h
    intro s hs
    simp only [lines, List.cons_append, List.mem_cons, List.mem_append, List.not_mem_nil, or_false]
    rcases mem_regions_region.1 hs with rfl | hs | hs
    · exact ⟨hmarked, .inl rfl⟩
    · exact ⟨(ihBody hbody s hs).1, .inr (.inl (.inl (ihBody hbody s hs).2))⟩
    · exact ⟨(ihRest hrest s hs).1, .inr (.inr (ihRest hrest s hs).2)⟩

/-- An outline stays valid when it is settled with plain lines. -/
theorem IsValid.settled {shown : Region → List Text} {o : Outline}
    (hshown : ∀ r ∈ o.roots, ∀ l ∈ shown r, IsPlain l) (h : o.IsValid) :
    (o.settled shown).IsValid := by
  induction o with
  | nil => trivial
  | line text rest ih => exact ⟨h.1, ih hshown h.2⟩
  | region r body rest _ ihRest =>
    obtain ⟨hmarked, -, -, hrest⟩ := h
    have hplain := hshown r List.mem_cons_self
    refine ⟨hmarked, fun l hl => ?_, isValid_ofLines hplain,
      ihRest (fun s hs => hshown s (List.mem_cons_of_mem _ hs)) hrest⟩
    rw [lines_ofLines] at hl
    exact (hplain l hl).content r.family

/-- Every region of a valid outline is found by the scan of its family. -/
theorem IsValid.mem_nodes {o : Outline} (h : o.IsValid) :
    ∀ r ∈ o.regions, r ∈ o.nodes [] r.family := by
  induction o with
  | nil => simp [regions]
  | line text rest ih => exact ih h.2
  | region r body rest ihBody ihRest =>
    obtain ⟨-, hcontent, hbody, hrest⟩ := h
    intro s hs
    rw [nodes, List.mem_append]
    rcases mem_regions_region.1 hs with rfl | hs | hs
    · exact .inl (by simp)
    -- the body has no marker of the family of the region around it
    · obtain ⟨hmarked, hmem⟩ := hbody.startMarker_mem s hs
      have hne : r.family ≠ s.family := by
        intro heq
        have hrole := Marker.role_of_classify_opening hmarked.opens
        rw [← heq, hcontent _ hmem] at hrole
        cases hrole
      rw [if_neg hne, if_neg List.not_mem_nil]
      exact .inl (ihBody hbody s hs)
    · exact .inr (ihRest hrest s hs)

/-! ## Told from the spans -/

namespace IsLocated

variable {first r s : Region} {body rest : Outline}

/-- A region in the body lies inside the one in front. -/
theorem within_front (h : (region first body rest).IsLocated offset) (hr : r ∈ body.regions) :
    r.span.Within first.span := by
  obtain ⟨-, -, -, hin, -⟩ := h.parts
  have := hin r hr
  constructor <;> omega

/-- The region in front lies inside no other one. -/
theorem eq_of_front_within (h : (region first body rest).IsLocated offset)
    (hs : s ∈ (region first body rest).regions) (hwithin : first.span.Within s.span) :
    s = first := by
  obtain ⟨-, hlt, -, hin, hbehind⟩ := h.parts
  have hstart := hwithin.1
  rcases mem_regions_region.1 hs with hs | hs | hs
  · exact hs
  · have := hin s hs
    omega
  · have := hbehind s hs
    omega

/-- What is around a region of the body is in the body too, or it is the region in front. -/
theorem eq_or_mem_of_body_within (h : (region first body rest).IsLocated offset)
    (hr : r ∈ body.regions) (hs : s ∈ (region first body rest).regions)
    (hwithin : r.span.Within s.span) : s = first ∨ s ∈ body.regions := by
  obtain ⟨-, -, -, hin, hbehind⟩ := h.parts
  have hstart := hwithin.1
  rcases mem_regions_region.1 hs with hs | hs | hs
  · exact .inl hs
  · exact .inr hs
  · have := hin r hr
    have := hbehind s hs
    omega

/-- What is around a region behind the one in front is behind it too. -/
theorem mem_of_rest_within (h : (region first body rest).IsLocated offset)
    (hr : r ∈ rest.regions) (hs : s ∈ (region first body rest).regions)
    (hwithin : r.span.Within s.span) : s ∈ rest.regions := by
  obtain ⟨-, -, -, hin, hbehind⟩ := h.parts
  have hafter := hbehind r hr
  have hstop := hwithin.2
  rcases mem_regions_region.1 hs with rfl | hs | hs
  · omega
  · have := hin s hs
    omega
  · exact hs

end IsLocated

/-- **What the passes find is told from the spans**: the regions of a family that are not inside one of
    a family that is done. -/
theorem nodes_eq_filter {o : Outline} (h : o.IsLocated offset) {done : List Family}
    (hf : f ∉ done) :
    o.nodes done f = (o.nodes [] f).filter fun r => !hidden done o.regions r := by
  induction o generalizing offset with
  | nil => rfl
  | line text rest ih => exact ih h
  | region r body rest ihBody ihRest =>
    rw [nodes, nodes, List.filter_append, ihRest h.2.2]
    congr 1
    · by_cases hfamily : r.family = f
      · have hshown : hidden done (region r body rest).regions r = false := by
          rw [← Bool.not_eq_true, hidden_iff]
          rintro ⟨s, hs, hdone, hwithin⟩
          rw [h.eq_of_front_within hs hwithin, hfamily] at hdone
          exact hf hdone
        rw [if_pos hfamily, if_pos hfamily, List.filter_cons_of_pos (by simp [hshown])]
        rfl
      · rw [if_neg hfamily, if_neg hfamily, if_neg List.not_mem_nil]
        by_cases hdone : r.family ∈ done
        -- the region in front hides its whole body
        · rw [if_pos hdone, eq_comm, List.filter_eq_nil_iff]
          intro s hs
          have hwithin := h.within_front (mem_regions_of_mem_nodes s hs)
          have hhidden : hidden done (region r body rest).regions s = true :=
            hidden_iff.2 ⟨r, List.mem_cons_self, hdone, hwithin⟩
          simp [hhidden]
        -- it hides nothing, so a region of the body is hidden in the body or not at all
        · rw [if_neg hdone, ihBody h.2.1]
          refine List.filter_congr fun s hs => congrArg _ (hidden_congr fun q hq hwithin => ?_)
          have hs := mem_regions_of_mem_nodes s hs
          constructor
          · exact fun hmem => mem_regions_region.2 (.inr (.inl hmem))
          · intro hmem
            refine (h.eq_or_mem_of_body_within hs hmem hwithin).resolve_left ?_
            rintro rfl
            exact hdone hq
    · refine List.filter_congr fun s hs => congrArg _ (hidden_congr fun q hq hwithin => ?_)
      have hs := mem_regions_of_mem_nodes s hs
      constructor
      · exact fun hmem => mem_regions_region.2 (.inr (.inr hmem))
      · exact fun hmem => h.mem_of_rest_within hs hmem hwithin

theorem mem_regions_of_mem_roots {o : Outline} : ∀ r ∈ o.roots, r ∈ o.regions := by
  induction o with
  | nil => simp [roots]
  | line text rest ih => exact ih
  | region first body rest _ ihRest =>
    intro r hr
    rcases List.mem_cons.1 hr with hr | hr
    · exact mem_regions_region.2 (.inl hr)
    · exact mem_regions_region.2 (.inr (.inr (ihRest r hr)))

/-- **The outermost regions are those at the top** of the outline. -/
theorem mem_roots_iff {o : Outline} (h : o.IsLocated offset) {r : Region} (hr : r ∈ o.regions) :
    r ∈ o.roots ↔ ∀ s ∈ o.regions, r.span.Within s.span → s = r := by
  induction o generalizing offset with
  | nil => cases hr
  | line text rest ih => exact ih h hr
  | region first body rest ihBody ihRest =>
    rcases mem_regions_region.1 hr with rfl | hr | hr
    · exact iff_of_true List.mem_cons_self fun s hs hwithin => h.eq_of_front_within hs hwithin
    -- a region in the body is neither at the top nor outermost
    · obtain ⟨-, hlt, -, hin, hbehind⟩ := h.parts
      have hinside := hin r hr
      refine iff_of_false (fun hroot => ?_) fun houter => ?_
      · rcases List.mem_cons.1 hroot with rfl | hroot
        · omega
        · have := hbehind r (mem_regions_of_mem_roots r hroot)
          omega
      · have heq := houter first List.mem_cons_self (h.within_front hr)
        rw [heq] at hinside
        omega
    · rw [roots, List.mem_cons, ihRest h.2.2 hr]
      constructor
      · rintro (rfl | houter) s hs hwithin
        · exact h.eq_of_front_within hs hwithin
        · exact houter s (h.mem_of_rest_within hr hs hwithin) hwithin
      · exact fun houter => .inr fun s hs hwithin =>
          houter s (mem_regions_region.2 (.inr (.inr hs))) hwithin

/-! ## The text -/

/-- Edits that put what they show in place of some regions at the top of an outline, and spare all
    else of it. A region that is not replaced shows its body. -/
structure Edited (edits : List (Span × Text)) (shown : Region → List Text) (offset : Nat)
    (o : Outline) : Prop where
  nodup : edits.Nodup
  replaced : ∀ r ∈ o.roots,
    (r.span, Region.textOf r.startMarker (shown r) r.endMarker) ∈ edits ∨ shown r = r.bodyLines
  others : ∀ edit ∈ edits,
    (∃ r ∈ o.roots, edit = (r.span, Region.textOf r.startMarker (shown r) r.endMarker)) ∨
      edit.1.Spares offset (offset + o.size)

namespace Edited

variable {edits : List (Span × Text)} {shown : Region → List Text} {text : Text} {r : Region}
  {body rest : Outline}

/-- A line in front is spared. -/
theorem of_line (h : Edited edits shown offset (line text rest))
    (hlocated : (line text rest).IsLocated offset) :
    Text.replaceFrom edits offset (text ++ ['\n']) = text ++ ['\n'] ∧
      Edited edits shown (offset + text.byteLength + 1) rest := by
  have hothers := h.others
  rw [size_line] at hothers
  have hlength : (text ++ ['\n']).byteLength = text.byteLength + 1 := by simp
  refine ⟨Text.replaceFrom_of_spares fun edit hedit => ?_, h.nodup, h.replaced, fun edit hedit =>
    (hothers edit hedit).imp_right fun hspares => hspares.mono (by omega) (by omega)⟩
  rw [hlength]
  rcases hothers edit hedit with ⟨r, hr, rfl⟩ | hspares
  · have := IsLocated.within (o := rest) hlocated r (mem_regions_of_mem_roots r hr)
    exact .inl (by show _ ≤ r.span.start; omega)
  · exact hspares.mono (Nat.le_refl _) (by omega)

/-- An edit is the one for the region in front, or it spares that region and the line feed behind
    it. -/
theorem eq_or_spares (h : Edited edits shown offset (region r body rest))
    (hlocated : (region r body rest).IsLocated offset) : ∀ edit ∈ edits,
      edit = (r.span, Region.textOf r.startMarker (shown r) r.endMarker) ∨
        edit.1.Spares r.span.start (r.span.stop + 1) := by
  obtain ⟨hstart, -, hstop, -, hbehind⟩ := hlocated.parts
  intro edit hedit
  rcases h.others edit hedit with ⟨s, hs, rfl⟩ | hspares
  · rcases List.mem_cons.1 hs with rfl | hs
    · exact .inl rfl
    · exact .inr (.inl (hbehind s (mem_regions_of_mem_roots s hs)).1)
  · rw [size_region] at hspares
    exact .inr (hspares.mono (by omega) (by omega))

/-- At the span of the region in front stands what it shows. -/
theorem replaceFrom_front (h : Edited edits shown offset (region r body rest))
    (hlocated : (region r body rest).IsLocated offset) :
    Text.replaceFrom edits offset (Region.textOf r.startMarker body.lines r.endMarker) =
      Region.textOf r.startMarker (shown r) r.endMarker := by
  have hspan := hlocated.span_eq
  have hbody : r.bodyLines = body.lines := congrArg Region.bodyLines hlocated.1.symm
  have hcases := h.eq_or_spares hlocated
  rw [hspan] at hcases
  by_cases hmem : (r.span, Region.textOf r.startMarker (shown r) r.endMarker) ∈ edits
  · rw [hspan] at hmem
    have hne := Region.textOf_ne_nil r.startMarker body.lines r.endMarker
    exact Text.replaceFrom_of_edit hne h.nodup hmem fun edit hedit =>
      (hcases edit hedit).imp_right fun hspares =>
        hspares.mono (Nat.le_refl _) (Nat.le_add_right _ 1)
  -- no edit replaces the region, so it shows its body
  · have hshown : shown r = r.bodyLines := (h.replaced r List.mem_cons_self).resolve_left hmem
    rw [hshown, hbody]
    refine Text.replaceFrom_of_spares fun edit hedit => ?_
    rw [hspan] at hmem
    refine ((hcases edit hedit).resolve_left fun heq => hmem (heq ▸ hedit)).mono (Nat.le_refl _) ?_
    exact Nat.le_add_right _ 1

/-- The line feed behind the region in front is spared. -/
theorem replaceFrom_lineFeed (h : Edited edits shown offset (region r body rest))
    (hlocated : (region r body rest).IsLocated offset) :
    Text.replaceFrom edits r.span.stop ['\n'] = ['\n'] := by
  have hlt := hlocated.parts.2.1
  refine Text.replaceFrom_of_spares fun edit hedit => ?_
  rcases h.eq_or_spares hlocated edit hedit with rfl | hspares
  · exact Span.spares_of_stop_le hlt (Nat.le_refl _)
  · exact hspares.mono (Nat.le_of_lt hlt) (Nat.le_refl _)

/-- The edits of an outline with a region in front are edits of what is behind the region. -/
theorem of_region (h : Edited edits shown offset (region r body rest))
    (hlocated : (region r body rest).IsLocated offset) : Edited edits shown
      (offset + (Region.textOf r.startMarker body.lines r.endMarker).byteLength + 1) rest := by
  obtain ⟨-, hlt, hstop, -, -⟩ := hlocated.parts
  refine ⟨h.nodup, fun s hs => h.replaced s (List.mem_cons_of_mem _ hs), fun edit hedit => ?_⟩
  rcases h.others edit hedit with ⟨s, hs, rfl⟩ | hspares
  · rcases List.mem_cons.1 hs with rfl | hs
    · exact .inr (Span.spares_of_stop_le hlt (by rw [hstop]; exact Nat.le_add_right _ 1))
    · exact .inl ⟨s, hs, rfl⟩
  · rw [size_region] at hspares
    exact .inr (hspares.mono (by omega) (by omega))

end Edited

/-- Replacing the spans of regions at the top settles the outline, whatever other spans are replaced
    elsewhere. -/
theorem replaceFrom_unlines {o : Outline} (h : o.IsLocated offset) {shown : Region → List Text}
    {edits : List (Span × Text)} (hedited : Edited edits shown offset o) :
    Text.replaceFrom edits offset (Text.unlines o.lines) =
      Text.unlines (o.settled shown).lines := by
  induction o generalizing offset with
  | nil => rfl
  | line text rest ih =>
    obtain ⟨hline, hedited⟩ := hedited.of_line h
    have hsplit : Text.unlines (line text rest).lines =
        (text ++ ['\n']) ++ Text.unlines rest.lines := by simp [lines]
    have hlength : (text ++ ['\n']).byteLength = text.byteLength + 1 := by simp
    rw [hsplit, Text.replaceFrom_append, hline, hlength, ← Nat.add_assoc, ih h hedited]
    simp [settled, lines]
  | region r body rest _ ihRest =>
    have hfeed := hedited.replaceFrom_lineFeed h
    obtain ⟨-, -, hstop, -, -⟩ := h.parts
    have hsplit : Text.unlines (region r body rest).lines =
        (Region.textOf r.startMarker body.lines r.endMarker ++ ['\n']) ++
          Text.unlines rest.lines := by
      rw [lines, Text.unlines_append, ← Region.textOf_append_lineFeed]
    have hlength : (Region.textOf r.startMarker body.lines r.endMarker ++ ['\n']).byteLength =
        (Region.textOf r.startMarker body.lines r.endMarker).byteLength + 1 := by simp
    rw [hstop] at hfeed
    rw [hsplit, Text.replaceFrom_append, Text.replaceFrom_append, hedited.replaceFrom_front h, hfeed,
      hlength, ← Nat.add_assoc, ihRest h.2.2 (hedited.of_region h), settled, lines, lines_ofLines,
      Text.unlines_append, ← Region.textOf_append_lineFeed]

/-- Replacing the spans of regions at the top settles a document. -/
theorem replaceSpans_eq {o : Outline} (hne : o.lines ≠ []) (hlocated : o.IsLocated 0)
    {shown : Region → List Text} {edits : List (Span × Text)}
    (hedited : Edited edits shown 0 o) :
    (Text.joinLines o.lines).replaceSpans edits = Text.joinLines (o.settled shown).lines := by
  have hunlines := replaceFrom_unlines hlocated hedited
  -- the line feed behind the last line is not part of the document
  have hlast : Text.replaceFrom edits (0 + (Text.joinLines o.lines).byteLength) ['\n'] = ['\n'] := by
    refine Text.replaceFrom_of_spares fun edit hedit => ?_
    have hsize : (Text.joinLines o.lines).byteLength + 1 = o.size := Text.byteLength_joinLines hne
    simp only [Text.byteLength_cons, Text.byteLength_nil, Text.utf8Size_lineFeed]
    rcases hedited.others edit hedit with ⟨r, hr, rfl⟩ | hspares
    · have hin := hlocated.within r (mem_regions_of_mem_roots r hr)
      have hstop : r.span.stop ≤ 0 + (Text.joinLines o.lines).byteLength := by omega
      exact Span.spares_of_stop_le hin.2.1 hstop
    · exact hspares.mono (by omega) (by omega)
  rw [← Text.joinLines_append_lineFeed hne,
    ← Text.joinLines_append_lineFeed (lines_settled_ne_nil hne), Text.replaceFrom_append, hlast]
    at hunlines
  exact List.append_cancel_right hunlines

/-! ## The outline of a document -/

/-- The regions that a scan of every family finds are those of the outline. -/
theorem mem_flatMap_nodes {o : Outline} (h : o.IsValid) {r : Region} :
    r ∈ Family.all.flatMap (o.nodes []) ↔ r ∈ o.regions := by
  rw [List.mem_flatMap]
  constructor
  · rintro ⟨f, -, hr⟩
    exact mem_regions_of_mem_nodes r hr
  · exact fun hr => ⟨r.family, r.family.mem_all, h.mem_nodes r hr⟩

/-- **The fetches of all passes are told from the spans**. -/
theorem requested_eq_requests {o : Outline} (hvalid : o.IsValid) (hlocated : o.IsLocated 0) :
    requested (Family.all.flatMap (o.nodes [])) = o.requests [] Family.all := by
  -- family by family, the regions that are not hidden are those that the pass finds
  have hfilter : ∀ f : Family, (o.nodes [] f).filter (fun r =>
      !hidden r.family.earlier (Family.all.flatMap (o.nodes [])) r) = o.nodes f.earlier f := by
    intro f
    rw [nodes_eq_filter hlocated f.not_mem_earlier]
    refine List.filter_congr fun r hr => ?_
    rw [family_of_mem_nodes r hr]
    exact congrArg _ (hidden_congr fun s _ _ => mem_flatMap_nodes hvalid)
  rw [requested, List.filter_flatMap]
  simp only [hfilter]
  simp [requests, Family.all, Family.earlier]

/-- A laminar document is the text of an outline of its regions. -/
theorem exists_of_laminar {document : Text} {regions : List Region}
    (hscan : scanAll document = .ok regions) (hlaminar : Laminar regions) :
    ∃ o : Outline, o.IsValid ∧ o.lines ≠ [] ∧ o.IsLocated 0 ∧
      document = Text.joinLines o.lines ∧ regions = Family.all.flatMap (o.nodes []) := by
  obtain ⟨o, hlines, hvalid, hlocated⟩ := exists_outline hscan hlaminar
  have hdocument : document = Text.joinLines o.lines := by rw [hlines, Text.joinLines_lines]
  have hne : o.lines ≠ [] := hlines ▸ Text.lines_ne_nil document
  refine ⟨o, hvalid, hne, hlocated, hdocument, ?_⟩
  obtain ⟨found, hfound, rfl⟩ := scanAll_eq_ok_iff.1 hscan
  refine congrArg (fun nodes => Family.all.flatMap nodes) (funext fun f => ?_)
  have hscanf := hfound f
  rw [hdocument, scan_eq hvalid hne] at hscanf
  rw [← Except.ok.inj hscanf, ← map_fst_visits f 0]
  exact List.map_congr_left hlocated.visits_eq

/-- Replacing the outermost regions of a located outline settles it. -/
theorem replaceSpans_outermost {o : Outline} (hvalid : o.IsValid) (hne : o.lines ≠ [])
    (hlocated : o.IsLocated 0) (hnodup : (Family.all.flatMap (o.nodes [])).Nodup)
    (shown : Region → List Text) :
    (Text.joinLines o.lines).replaceSpans
        ((outermost (Family.all.flatMap (o.nodes []))).map fun r =>
          (r.span, Region.textOf r.startMarker (shown r) r.endMarker)) =
      Text.joinLines (o.settled shown).lines := by
  have hroots : ∀ r, r ∈ outermost (Family.all.flatMap (o.nodes [])) ↔ r ∈ o.roots := by
    intro r
    rw [mem_outermost, mem_flatMap_nodes hvalid]
    constructor
    · rintro ⟨hr, houter⟩
      exact (mem_roots_iff hlocated hr).2 fun s hs => houter s ((mem_flatMap_nodes hvalid).2 hs)
    · intro hroot
      have hr := mem_regions_of_mem_roots r hroot
      exact ⟨hr, fun s hs => (mem_roots_iff hlocated hr).1 hroot s ((mem_flatMap_nodes hvalid).1 hs)⟩
  generalize hedits : (outermost (Family.all.flatMap (o.nodes []))).map (fun r =>
    (r.span, Region.textOf r.startMarker (shown r) r.endMarker)) = edits
  have hmem : ∀ edit, edit ∈ edits ↔ ∃ r ∈ o.roots,
      (r.span, Region.textOf r.startMarker (shown r) r.endMarker) = edit := by
    intro edit
    rw [← hedits, List.mem_map]
    exact exists_congr fun r => and_congr_left fun _ => hroots r
  have hnodup' : edits.Nodup := by
    rw [← hedits]
    refine List.Nodup.map_on (fun r hr s hs heq => ?_) (hnodup.filter _)
    exact eq_of_outermost hr hs (congrArg Prod.fst heq)
  refine replaceSpans_eq hne hlocated ⟨hnodup', fun r hr => .inl ((hmem _).2 ⟨r, hr, rfl⟩),
    fun edit hedit => ?_⟩
  obtain ⟨r, hr, heq⟩ := (hmem edit).1 hedit
  exact .inl ⟨r, hr, heq.symm⟩

end Outline

/-! ## The update equation -/

theorem exists_reply {regions : List Region} (hnodup : regions.Nodup) {listings : List Listing}
    (hlength : regions.length = listings.length) :
    ∃ reply : Region → Listing, regions.map reply = listings := by
  induction regions generalizing listings with
  | nil => exact ⟨fun _ => .tracks [], (List.length_eq_zero_iff.1 hlength.symm).symm⟩
  | cons r regions ih =>
    cases listings with
    | nil => cases hlength
    | cons listing listings =>
      obtain ⟨hr, hnodup⟩ := List.nodup_cons.1 hnodup
      obtain ⟨reply, hreply⟩ := ih hnodup (Nat.succ.inj hlength)
      -- the regions are different, so one reply can be changed without the others
      refine ⟨Function.update reply r listing, ?_⟩
      rw [List.map_cons, Function.update_self, ← hreply]
      congr 1
      refine List.map_congr_left fun s hs => Function.update_of_ne ?_ ..
      rintro rfl
      exact hr hs

section Laminar

variable {σ : Type} {source : Source σ} {options : UpdateOptions} {document : Text}
  {regions : List Region} {s s' : σ}

/-- If the fetches for the requested regions of an outline succeed with marker-free replies, then the
    update makes them, succeeds, and settles the outline. -/
theorem Outline.exists_reply_of_requested {o : Outline} (hvalid : o.IsValid) (hne : o.lines ≠ [])
    (hlocated : o.IsLocated 0) (hnodup : (Family.all.flatMap (o.nodes [])).Nodup)
    {listings : List Listing}
    (hfetch : (requested (Family.all.flatMap (o.nodes []))).mapM (fetch source options) s =
      (.ok listings, s'))
    (hfree : ∀ entry ∈ (requested (Family.all.flatMap (o.nodes []))).zip listings,
      entry.1.MarkerFree entry.2 options) :
    ∃ reply : Region → Listing, (requested (Family.all.flatMap (o.nodes []))).map reply = listings ∧
      (∀ r ∈ o.requests [] Family.all, ∀ l ∈ shownBy options reply r, IsPlain l) ∧
      computeUpdate source options (Text.joinLines o.lines) s =
        (.ok {
          previous := Text.joinLines o.lines
          updated := Text.joinLines (o.settled (shownBy options reply)).lines
          regions := reportsAll options reply Family.all o }, s') := by
  have hrequested : (requested (Family.all.flatMap (o.nodes []))).Nodup := hnodup.filter _
  obtain ⟨reply, rfl⟩ := exists_reply hrequested (Run.forall₂_of_mapM hfetch).length_eq
  have hfree' : ∀ r ∈ requested (Family.all.flatMap (o.nodes [])),
      r.MarkerFree (reply r) options := by
    intro r hr
    apply hfree (r, reply r)
    rw [← List.map_prod_left_eq_zip]
    exact List.mem_map_of_mem hr
  rw [requested_eq_requests hvalid hlocated] at hfetch hfree' ⊢
  have hplain : ∀ r ∈ o.requests [] Family.all, ∀ l ∈ shownBy options reply r, IsPlain l :=
    fun r hr => (hfree' r hr).isPlain
  exact ⟨reply, rfl, hplain, computeUpdate_of_fetch hvalid hne hplain hfetch⟩

/-- If the fetches for the regions of a laminar document succeed with marker-free replies, then the
    update makes them, succeeds, and replaces the outermost regions. -/
theorem computeUpdate_of_laminar (hscan : scanAll document = .ok regions)
    (hlaminar : Laminar regions) {listings : List Listing}
    (hfetch : (requested regions).mapM (fetch source options) s = (.ok listings, s'))
    (hfree : ∀ entry ∈ (requested regions).zip listings, entry.1.MarkerFree entry.2 options) :
    ∃ (reply : Region → Listing) (u : DocumentUpdate),
      (requested regions).map reply = listings ∧
      (∀ r ∈ outermost regions, r ∈ requested regions) ∧
      computeUpdate source options document s = (.ok u, s') ∧ u.previous = document ∧
      u.updated = document.replaceSpans
        ((outermost regions).map fun r => (r.span, r.render (reply r) options)) := by
  have hnodup := nodup_of_scanAll hscan
  obtain ⟨o, hvalid, hne, hlocated, rfl, rfl⟩ := Outline.exists_of_laminar hscan hlaminar
  obtain ⟨reply, hreply, -, hrun⟩ :=
    Outline.exists_reply_of_requested hvalid hne hlocated hnodup hfetch hfree
  refine ⟨reply, _, hreply, ?_, hrun, rfl, ?_⟩
  -- an outermost region lies in itself alone, and its own family is not done before it
  · intro r hr
    obtain ⟨hmem, houter⟩ := mem_outermost.1 hr
    refine List.mem_filter.2 ⟨hmem, ?_⟩
    rw [Bool.not_eq_true', ← Bool.not_eq_true, hidden_iff]
    rintro ⟨q, hq, hearlier, hwithin⟩
    rw [houter q hq hwithin] at hearlier
    exact r.family.not_mem_earlier hearlier
  · rw [← Outline.replaceSpans_outermost hvalid hne hlocated hnodup]
    refine congrArg (Text.replaceSpans · _) (List.map_congr_left fun r _ => ?_)
    rw [Region.render_eq]
    rfl

end Laminar

/-- Both regions of the nested document are requested, and one is replaced. -/
theorem Sample.exists_scanAll_nestedDocument :
    ∃ regions, scanAll nestedDocument = .ok regions ∧ Laminar regions ∧
      (outermost regions).length = 1 ∧
      (requested regions).mapM (fetch (steady profile) options) () =
        (.ok [profile .tracks, profile .artists], ()) := by
  obtain ⟨regions, hscan, h⟩ : ∃ regions, scanAll nestedDocument = .ok regions ∧
      decide (Laminar regions ∧ (outermost regions).length = 1 ∧
        ((requested regions).mapM (fetch (steady profile) options) ()).1 =
          .ok [profile .tracks, profile .artists]) = true := exists_ok_of_any (by decide +kernel)
  obtain ⟨hlaminar, houtermost, hfetch⟩ := of_decide_eq_true h
  exact ⟨regions, hscan, hlaminar, houtermost, Prod.ext hfetch rfl⟩

/-- **The update equation**: if the fetches for the regions of a laminar document succeed with
    marker-free replies, then the update succeeds, and the updated document is the document with the
    span of each outermost region replaced by the region rendered from the reply to the fetch for
    it. Replies are marker-free if the user, the date pattern and the records have no line feed. -/
theorem update_equation :
    (∀ {σ : Type} (source : Source σ) (options : UpdateOptions) (document : Text)
        (regions : List Region) (listings : List Listing) (s s' : σ),
      scanAll document = .ok regions → Laminar regions →
      (requested regions).mapM (fetch source options) s = (.ok listings, s') →
      (∀ entry ∈ (requested regions).zip listings, entry.1.MarkerFree entry.2 options) →
      ∃ (reply : Region → Listing) (u : DocumentUpdate),
        (requested regions).map reply = listings ∧
        (∀ r ∈ outermost regions, r ∈ requested regions) ∧
        computeUpdate source options document s = (.ok u, s') ∧ u.previous = document ∧
        u.updated = document.replaceSpans
          ((outermost regions).map fun r => (r.span, r.render (reply r) options))) ∧
    ∀ (locale pattern : Text) (options : UpdateOptions) (r : Region) (listing : Listing),
      Formats.ofLocale locale pattern = .ok options.formats → '\n' ∉ pattern →
      '\n' ∉ options.user → (∀ t ∈ listing.texts, '\n' ∉ t) → r.MarkerFree listing options := by
  constructor
  · intro σ source options document regions listings s s' hscan hlaminar hfetch hfree
    exact computeUpdate_of_laminar hscan hlaminar hfetch hfree
  · intro locale pattern options r listing hformats hpattern huser htexts
    exact r.markerFree_of_oneLine hformats hpattern huser htexts

/-- The update of a document with a region inside another one. -/
theorem update_equation_nested :
    ∃ (regions : List Region) (reply : Region → Listing) (u : DocumentUpdate),
      scanAll Sample.nestedDocument = .ok regions ∧
      (requested regions).length = 2 ∧ (outermost regions).length = 1 ∧
      computeUpdate (Sample.steady Sample.profile) Sample.options Sample.nestedDocument () =
        (.ok u, ()) ∧
      u.updated = Sample.nestedDocument.replaceSpans
        ((outermost regions).map fun r => (r.span, r.render (reply r) Sample.options)) := by
  obtain ⟨regions, hscan, hlaminar, houtermost, hfetch⟩ := Sample.exists_scanAll_nestedDocument
  have htexts : ∀ listing ∈ [Sample.profile .tracks, Sample.profile .artists],
      ∀ t ∈ listing.texts, '\n' ∉ t := by decide +kernel
  obtain ⟨reply, u, -, -, hrun, -, hupdated⟩ := update_equation.1 _ _ _ _ _ _ _ hscan hlaminar
    hfetch fun entry hentry => update_equation.2 _ _ _ _ _ Sample.ofLocale_formats (by decide)
      (by decide) (htexts _ (List.of_mem_zip hentry).2)
  exact ⟨regions, reply, u, hscan, (Run.forall₂_of_mapM hfetch).length_eq, houtermost, hrun, hupdated⟩

end ListeningCharts
