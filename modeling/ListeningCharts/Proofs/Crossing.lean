import ListeningCharts.Proofs.Numbering
import ListeningCharts.Proofs.Pass
import ListeningCharts.Proofs.Survival

/-! # Regions that cross

    What becomes of a document in which two regions of different families cross. The pass over the
    first of the two families takes one marker of the other region out of the document, and leaves
    the other marker there.

    * **Shape**: the markers of the two regions alternate (`exists_crossing`).
    * **The update fails**, although the document was accepted: after one fetch, at the marker that is
      left (`computeUpdate_of_crossing`).
-/

namespace ListeningCharts

variable {f : Family} {offset : Nat} {lines : List Text} {r : Region} {others : List Region}

/-! ## The first region of a family -/

namespace Pairing

/-- Lines that close no region are content. -/
theorem content_of_nil (h : Pairing f [] offset lines []) : ∀ l ∈ lines, f.role l = .content := by
  induction lines generalizing offset with
  | nil => simp
  | cons line lines ih =>
    cases hrole : f.role line with
    | opens =>
      obtain ⟨config, hrest⟩ := h.of_opens hrole
      obtain ⟨r, hr, -⟩ := hrest.exists_mem_of_pending (List.mem_append_right _ List.mem_cons_self)
      cases hr
    | closes =>
      obtain ⟨_, _, _, hpending, -, -⟩ := h.of_closes hrole
      cases hpending
    | content => exact List.forall_mem_cons.2 ⟨hrole, ih (h.of_content hrole)⟩

/-- The lines up to the one that closes a region, if no other one overlaps it. -/
theorem exists_close {p : OpenRegion} (h : Pairing f [p] offset lines (r :: others))
    (hdisjoint : ∀ s ∈ others, r.span.Disjoint s.span) (hstart : p.start < offset) :
    ∃ body last rest, lines = body ++ last :: rest ∧
      r = OpenRegion.close { p with bodyLines := p.bodyLines ++ body } f last
        (offset + (Text.unlines body).byteLength + last.byteLength) ∧
      Pairing f [] (r.span.stop + 1) rest others := by
  induction lines generalizing p offset with
  | nil => cases h
  | cons line lines ih =>
    cases hrole : f.role line with
    | opens =>
      obtain ⟨config, hrest⟩ := h.of_opens hrole
      obtain ⟨r', others', heq, hrstart, hpending, -⟩ := Pairing.exists_oldest hrest
      obtain ⟨rfl, rfl⟩ := List.cons.inj heq
      obtain ⟨s, hs, hsstart⟩ := hpending _ List.mem_cons_self
      simp only at hsstart
      -- the region that is opened here would overlap the first one
      have hrstop := h.offset_lt_stop r List.mem_cons_self
      have hsstop := h.offset_lt_stop s (List.mem_cons_of_mem _ hs)
      rcases hdisjoint s hs with hle | hle
      · omega
      · omega
    | closes =>
      obtain ⟨oldest, pending, closed, hpending, hregions, hrest⟩ := h.of_closes hrole
      obtain ⟨rfl, rfl⟩ := List.cons.inj hpending
      obtain ⟨rfl, rfl⟩ := List.cons.inj hregions
      exact ⟨[], line, lines, rfl, by simp, hrest⟩
    | content =>
      obtain ⟨body, last, rest, hlines, hregion, hrest⟩ := ih (p := p.push line)
        (h.of_content hrole) (by show p.start < _; omega)
      refine ⟨line :: body, last, rest, by rw [hlines]; rfl, ?_, hrest⟩
      rw [hregion]
      simp only [OpenRegion.push, OpenRegion.close, List.append_assoc, List.singleton_append,
        Text.unlines_cons, Text.byteLength_append, Text.byteLength_cons, Text.utf8Size_lineFeed]
      congr 2
      omega

end Pairing

/-- The lines around the first region of a family, and those behind it. -/
structure IsFirst (f : Family) (offset : Nat) (lines : List Text) (r : Region)
    (front rest : List Text) : Prop where
  lines_eq : lines = front ++ r.startMarker :: (r.bodyLines ++ r.endMarker :: rest)
  content : ∀ l ∈ front, f.role l = .content
  start_eq : r.span.start = offset + (Text.unlines front).byteLength
  stop_eq : r.span.stop =
    r.span.start + (Region.textOf r.startMarker r.bodyLines r.endMarker).byteLength

/-- **The first region stands alone** if no other one overlaps it. -/
theorem Pairing.exists_first (h : Pairing f [] offset lines (r :: others))
    (hdisjoint : ∀ s ∈ others, r.span.Disjoint s.span) :
    ∃ front rest, IsFirst f offset lines r front rest ∧
      Pairing f [] (r.span.stop + 1) rest others := by
  induction lines generalizing offset with
  | nil => cases h
  | cons line lines ih =>
    cases hrole : f.role line with
    | opens =>
      obtain ⟨config, hopen⟩ := h.of_opens hrole
      obtain ⟨body, last, rest, hlines, hregion, hrest⟩ :=
        Pairing.exists_close hopen hdisjoint (by show offset < _; omega)
      refine ⟨[], rest, ⟨?_, by simp, ?_, ?_⟩, hrest⟩
      · rw [hlines, hregion]
        simp [OpenRegion.close]
      · rw [hregion]
        simp [OpenRegion.close]
      · rw [hregion, Region.byteLength_textOf]
        simp only [OpenRegion.close, List.nil_append]
        omega
    | closes =>
      obtain ⟨_, _, _, hpending, -, -⟩ := h.of_closes hrole
      cases hpending
    | content =>
      obtain ⟨front, rest, hfirst, hrest⟩ := ih (h.of_content hrole)
      refine ⟨line :: front, rest, ⟨?_, ?_, ?_, hfirst.stop_eq⟩, hrest⟩
      · rw [hfirst.lines_eq]
        rfl
      · exact List.forall_mem_cons.2 ⟨hrole, hfirst.content⟩
      · rw [hfirst.start_eq]
        simp
        omega

/-! ## Two regions -/

/-- **The markers of two regions that cross alternate**. -/
theorem exists_crossing {g : Family} {s : Region} {front rest front' rest' : List Text}
    (hr : IsFirst f offset lines r front rest) (hs : IsFirst g offset lines s front' rest')
    (hstart : r.span.start < s.span.start) (hinside : s.span.start < r.span.stop)
    (hstop : r.span.stop < s.span.stop) (hmarkers : s.startMarker ≠ r.endMarker) :
    ∃ b c d, front' = front ++ r.startMarker :: b ∧ r.bodyLines = b ++ s.startMarker :: c ∧
      s.bodyLines = c ++ r.endMarker :: d ∧ rest = d ++ s.endMarker :: rest' := by
  have hrstart := hr.start_eq
  have hrstop := hr.stop_eq
  have hsstart := hs.start_eq
  have hsstop := hs.stop_eq
  rw [Region.byteLength_textOf] at hrstop hsstop
  -- where the start marker of the one stands among the lines of the other, the bytes tell
  rcases append_cons_cases (hr.lines_eq.symm.trans hs.lines_eq) with
    ⟨b, rfl, hrest⟩ | ⟨rfl, -, -⟩ | ⟨b, rfl, -⟩
  · refine ⟨b, ?_⟩
    simp only [Text.unlines_append, Text.unlines_cons, Text.byteLength_append, Text.byteLength_cons,
      Text.utf8Size_lineFeed] at hsstart
    -- the second region starts in the body of the first, since it starts before the first one ends
    rcases append_cons_cases hrest with ⟨c, rfl, -⟩ | ⟨-, heq, -⟩ | ⟨c, hbody, hrest⟩
    · simp at hsstart
      omega
    · exact absurd heq.symm hmarkers
    · rw [hbody] at hrstop
      simp only [Text.unlines_append, Text.unlines_cons, Text.byteLength_append,
        Text.byteLength_cons, Text.utf8Size_lineFeed] at hrstop
      -- and it ends behind the first one
      rcases append_cons_cases hrest with ⟨d, rfl, -⟩ | ⟨rfl, hend, -⟩ | ⟨d, hbody', hrest⟩
      · simp at hrstop
        omega
      · rw [hend] at hsstop
        omega
      · exact ⟨c, d, rfl, hbody, hbody', hrest⟩
  · omega
  · simp at hrstart
    omega

/-! ## Passes -/

/-- A document without markers of a family has no regions of it. -/
theorem scan_of_content {document : Text} (h : ∀ l ∈ document.lines, f.role l = .content) :
    scan f document = .ok [] := by
  have hpair : pairMarkers f [] 0 (document.lines ++ []) = _ := Outline.pairMarkers_nil_append h []
  rw [List.append_nil] at hpair
  rw [scan, hpair, pairMarkers]

/-- An end marker without a start marker. -/
theorem scan_of_end_alone {document : Text} {front back : List Text} {line : Text}
    (hlines : document.lines = front ++ line :: back) (hfront : ∀ l ∈ front, f.role l = .content)
    (hline : f.role line = .closes) : scan f document = .error (.endWithoutStart line) := by
  rw [scan, hlines, Outline.pairMarkers_nil_append hfront, pairMarkers_of_closes_nil hline]

/-- A start marker without an end marker. -/
theorem scan_of_start_alone {document : Text} {front back : List Text} {line : Text}
    {config : RegionConfig} (hlines : document.lines = front ++ line :: back)
    (hfront : ∀ l ∈ front, f.role l = .content) (hback : ∀ l ∈ back, f.role l = .content)
    (hline : Marker.classify f line = .ok (.opening config)) :
    scan f document = .error (.startWithoutEnd [line]) := by
  have hopen : ∀ (offset : Nat) (only : OpenRegion),
      pairMarkers f [only] offset back = .error (.startWithoutEnd [only.startMarker]) := by
    intro offset only
    rw [← List.append_nil back, Outline.pairMarkers_singleton_append hback]
    rfl
  rw [scan, hlines, Outline.pairMarkers_nil_append hfront, pairMarkers_of_opening hline]
  exact hopen _ _

/-- The first region is replaced where it stands, whatever became of the lines behind it. -/
theorem IsFirst.splice {front rest : List Text} (h : IsFirst f offset lines r front rest)
    (htext : r.fullText = Region.textOf r.startMarker r.bodyLines r.endMarker)
    {before : List Text} (hoffset : offset = (Text.unlines before).byteLength)
    (new back : List Text) :
    r.splice (Text.joinLines (before ++ (front ++ r.startMarker ::
        (r.bodyLines ++ r.endMarker :: back)))) (Region.textOf r.startMarker new r.endMarker) =
      Text.joinLines (before ++ (front ++ r.startMarker :: (new ++ r.endMarker :: back))) := by
  have hstart : r.span.start = (Text.unlines (before ++ front)).byteLength := by
    rw [h.start_eq, hoffset, Text.byteLength_unlines_append]
  have hstop : r.span.stop = (Text.unlines (before ++ front)).byteLength + r.fullText.byteLength := by
    rw [h.stop_eq, hstart, htext]
  have hsplice : r.splice
        (Text.joinLines (before ++ front ++ (r.startMarker :: r.bodyLines ++ [r.endMarker]) ++ back))
        (Text.joinLines (r.startMarker :: new ++ [r.endMarker])) =
      Text.joinLines (before ++ front ++ (r.startMarker :: new ++ [r.endMarker]) ++ back) :=
    Region.splice_joinLines (by simp) (by simp) htext hstart hstop
  simpa [Region.textOf] using hsplice

section Run

variable {σ : Type} {source : Source σ} {options : UpdateOptions} {working : Text}

theorem updateFamily_of_nil (h : scan f working = .ok []) (t : σ) :
    updateFamily source options working f t = (.ok (working, []), t) :=
  updateFamily_eq_ok_iff.2 ⟨[], [], h, Run.mapM_nil_eq_ok_iff.2 ⟨rfl, rfl⟩, rfl, rfl⟩

/-- Families without regions are passed over. -/
theorem updateFamilies_of_nil {families : List Family}
    (h : ∀ f ∈ families, scan f working = .ok []) (more : List Family) (t : σ) :
    updateFamilies source options (families ++ more) working t =
      updateFamilies source options more working t := by
  induction families with
  | nil => rfl
  | cons f families ih =>
    obtain ⟨hf, hfamilies⟩ := List.forall_mem_cons.1 h
    rw [List.cons_append, updateFamilies, Run.bind_apply, updateFamily_of_nil hf]
    simp only
    rw [Run.bind_apply, ih hfamilies]
    rcases updateFamilies source options more working t with ⟨e | ⟨updated, updates⟩, t'⟩ <;> rfl

/-- A pass that fails ends an update. -/
theorem computeUpdate_of_error {document : Text} {regions : List Region} {t t' : σ} {e : Error}
    (hscan : scanAll document = .ok regions)
    (h : updateFamilies source options Family.all document t = (.error e, t')) :
    computeUpdate source options document t = (.error e, t') := by
  rw [computeUpdate, Run.bind_eq_error_iff]
  refine .inr ⟨regions, t, Run.ofExcept_eq_ok_iff.2 ⟨hscan, rfl⟩, ?_⟩
  exact Run.bind_eq_error_iff.2 (.inl h)

theorem updateFamilies_of_scan_error {families : List Family} {e : Error}
    (h : scan f working = .error e) (t : σ) :
    updateFamilies source options (f :: families) working t = (.error e, t) := by
  have hscan : Run.ofExcept (scan f working) t = (.error e, t) := by rw [h]; rfl
  rw [updateFamilies, updateFamily]
  exact Run.bind_eq_error_iff.2 (.inl (Run.bind_eq_error_iff.2 (.inl hscan)))

/-- A pass over a family with one region. -/
theorem updateFamily_of_one {document : Text} {front rest : List Text}
    (hscan : scan f document = .ok [r]) (hfirst : IsFirst f 0 document.lines r front rest)
    {listing : Listing} {t t' : σ} (hfetch : fetch source options r t = (.ok listing, t')) :
    ∃ updates, updateFamily source options document f t =
      (.ok (Text.joinLines (front ++ r.startMarker ::
        (r.shown listing options ++ r.endMarker :: rest)), updates), t') := by
  have hshape := isShaped_of_scan hscan r List.mem_cons_self
  refine ⟨_, updateFamily_eq_ok_iff.2 ⟨[r], [listing], hscan,
    Run.mapM_cons_eq_ok_iff.2 ⟨listing, t', [], hfetch, Run.mapM_nil_eq_ok_iff.2 ⟨rfl, rfl⟩, rfl⟩,
    ?_, rfl⟩⟩
  have hoffset : 0 = (Text.unlines []).byteLength := rfl
  have hsplice := hfirst.splice hshape.text hoffset (r.shown listing options) rest
  -- the lines around the region are those of the document
  have hdocument := Text.joinLines_lines document
  rw [List.nil_append, ← hfirst.lines_eq, hdocument, List.nil_append, ← Region.render_eq] at hsplice
  exact hsplice.symm

/-! ## The update of two regions -/

/-- The family with the first of some regions. -/
theorem exists_of_flatMap_eq_cons {families : List Family} {found : Family → List Region}
    (h : families.flatMap found = r :: others) :
    ∃ skipped f tail more, families = skipped ++ f :: more ∧ (∀ g ∈ skipped, found g = []) ∧
      found f = r :: tail ∧ others = tail ++ more.flatMap found := by
  induction families with
  | nil => cases h
  | cons f families ih =>
    rw [List.flatMap_cons] at h
    cases hfound : found f with
    | nil =>
      rw [hfound, List.nil_append] at h
      obtain ⟨skipped, g, tail, more, rfl, hskipped, hg, hothers⟩ := ih h
      exact ⟨f :: skipped, g, tail, more, rfl, List.forall_mem_cons.2 ⟨hfound, hskipped⟩, hg,
        hothers⟩
    | cons first tail =>
      rw [hfound, List.cons_append] at h
      obtain ⟨rfl, rfl⟩ := List.cons.inj h
      exact ⟨[], f, tail, families, rfl, by simp, hfound, rfl⟩

/-- Two regions of different families are found by two scans, and no other scan finds a region. -/
theorem exists_of_scanAll_pair {document : Text} {s : Region}
    (h : scanAll document = .ok [r, s]) (hne : r.family ≠ s.family) :
    ∃ before between behind, Family.all = before ++ r.family :: (between ++ s.family :: behind) ∧
      (∀ f ∈ before ++ between, scan f document = .ok []) ∧
      scan r.family document = .ok [r] ∧ scan s.family document = .ok [s] := by
  obtain ⟨found, hfound, hregions⟩ := scanAll_eq_ok_iff.1 h
  have hfamily : ∀ f, ∀ q ∈ found f, q.family = f := fun f => family_of_scan (hfound f)
  obtain ⟨before, f, tail, more, hall, hbefore, hf, htail⟩ := exists_of_flatMap_eq_cons hregions.symm
  obtain rfl : r.family = f := hfamily f r (by simp [hf])
  -- the second region is of another family
  cases tail with
  | cons q tail =>
    obtain ⟨rfl, -⟩ := List.cons.inj htail
    exact absurd (hfamily r.family s (by simp [hf])).symm hne
  | nil =>
    obtain ⟨between, g, tail, behind, rfl, hbetween, hg, hbehind⟩ :=
      exists_of_flatMap_eq_cons htail.symm
    obtain rfl : s.family = g := hfamily g s (by simp [hg])
    obtain ⟨rfl, -⟩ := List.append_eq_nil_iff.1 hbehind.symm
    refine ⟨before, between, behind, hall, fun f hf => ?_, by rw [hfound, hf], by rw [hfound, hg]⟩
    rw [hfound f]
    rcases List.mem_append.1 hf with hf | hf
    · rw [hbefore f hf]
    · rw [hbetween f hf]

/-- **A pass over the first of two regions that cross leaves one marker of the other**. -/
theorem scan_of_crossing {document working : Text} {s : Region} {front rest front' rest' : List Text}
    (hne : r.family ≠ s.family) (hcross : ¬ r.span.Uncrossed s.span)
    (hr : IsFirst r.family 0 document.lines r front rest)
    (hs : IsFirst s.family 0 document.lines s front' rest') (hrshape : r.IsShaped)
    (hsshape : s.IsShaped) (hrest : ∀ l ∈ rest', s.family.role l = .content) {new : List Text}
    (hnew : ∀ l ∈ new, IsPlain l)
    (hworking : working.lines = front ++ r.startMarker :: (new ++ r.endMarker :: rest)) :
    scan s.family working =
      .error (if r.span.start < s.span.start then .endWithoutStart s.endMarker
        else .startWithoutEnd [s.startMarker]) := by
  have hropens := Marker.role_of_classify_opening hrshape.opens
  have hsopens := Marker.role_of_classify_opening hsshape.opens
  have hrmarkers : s.family.role r.startMarker = .content ∧ s.family.role r.endMarker = .content :=
    ⟨Family.role_of_ne (by simp [hropens]) hne.symm,
      Family.role_of_ne (by simp [hrshape.closes]) hne.symm⟩
  have hbody := hsshape.body_content
  have hfront := hs.content
  split
  · next hstart =>
    obtain ⟨hinside, hstop⟩ : s.span.start < r.span.stop ∧ r.span.stop < s.span.stop := by
      simp only [Span.Uncrossed, Span.Disjoint, Span.Within] at hcross
      omega
    obtain ⟨b, c, d, rfl, -, hsbody, rfl⟩ := exists_crossing hr hs hstart hinside hstop (by
      intro heq
      rw [heq, hrmarkers.2] at hsopens
      cases hsopens)
    rw [hsbody] at hbody
    have hlines : working.lines =
        (front ++ r.startMarker :: (new ++ r.endMarker :: d)) ++ s.endMarker :: rest' := by
      rw [hworking]
      simp
    refine scan_of_end_alone hlines ?_ hsshape.closes
    simp only [List.forall_mem_append, List.forall_mem_cons] at hfront hbody ⊢
    exact ⟨hfront.1, hrmarkers.1, fun l hl => (hnew l hl).content _, hrmarkers.2, hbody.2.2⟩
  · next hstart =>
    obtain ⟨hstart', hinside, hstop⟩ : s.span.start < r.span.start ∧ r.span.start < s.span.stop ∧
        s.span.stop < r.span.stop := by
      simp only [Span.Uncrossed, Span.Disjoint, Span.Within] at hcross
      omega
    obtain ⟨b, c, d, rfl, hsbody, -, rfl⟩ := exists_crossing hs hr hstart' hinside hstop (by
      intro heq
      have hcloses := hsshape.closes
      rw [← heq, hrmarkers.1] at hcloses
      cases hcloses)
    rw [hsbody] at hbody
    have hlines : working.lines = front' ++ s.startMarker ::
        (b ++ r.startMarker :: (new ++ r.endMarker :: rest)) := by
      rw [hworking]
      simp
    refine scan_of_start_alone hlines hfront ?_ hsshape.opens
    simp only [List.forall_mem_append, List.forall_mem_cons] at hbody hrest ⊢
    exact ⟨hbody.1, hrmarkers.1, fun l hl => (hnew l hl).content _, hrmarkers.2, hrest.2.2⟩

/-- **Two regions that cross are accepted, and then fail on a marker**: the update makes one fetch,
    and ends at the marker that the pass over the first region left. -/
theorem computeUpdate_of_crossing {document : Text} {s : Region} {listing : Listing} {t t' : σ}
    (hscan : scanAll document = .ok [r, s]) (hcross : ¬ NoCrossing [r, s])
    (hfetch : fetch source options r t = (.ok listing, t'))
    (hfree : r.MarkerFree listing options) :
    computeUpdate source options document t =
      (.error (if r.span.start < s.span.start then .endWithoutStart s.endMarker
        else .startWithoutEnd [s.startMarker]), t') := by
  rw [noCrossing_pair_iff, Classical.not_imp] at hcross
  obtain ⟨hne, hcross⟩ := hcross
  obtain ⟨before, between, behind, hall, hnone, hscanr, hscans⟩ := exists_of_scanAll_pair hscan hne
  obtain ⟨front, rest, hr, -⟩ := (scan_eq_ok_iff.1 hscanr).exists_first (by simp)
  obtain ⟨front', rest', hs, hrest⟩ := (scan_eq_ok_iff.1 hscans).exists_first (by simp)
  obtain ⟨updates, hpass⟩ := updateFamily_of_one hscanr hr hfetch
  have hplain := hfree.isPlain
  generalize hlines : front ++ r.startMarker :: (r.shown listing options ++ r.endMarker :: rest) =
    lines at hpass
  -- what the first pass leaves is made of lines of the document and lines that were shown
  have hmem : ∀ l ∈ lines, l ∈ document.lines ∨ l ∈ r.shown listing options := by
    rw [← hlines, hr.lines_eq]
    simp only [List.mem_append, List.mem_cons]
    tauto
  have hworking : (Text.joinLines lines).lines = lines := by
    refine Text.lines_joinLines (by rw [← hlines]; simp) fun l hl => ?_
    rcases hmem l hl with hl | hl
    · exact Text.lineFeed_not_mem_of_mem_lines hl
    · exact (hplain l hl).one
  -- the passes up to the second family find nothing
  have hbetween : ∀ f ∈ between, scan f (Text.joinLines lines) = .ok [] := by
    intro f hf
    refine scan_of_content fun l hl => ?_
    rw [hworking] at hl
    rcases hmem l hl with hl | hl
    · exact (scan_eq_ok_iff.1 (hnone f (List.mem_append_right _ hf))).content_of_nil l hl
    · exact (hplain l hl).content f
  have hfail := scan_of_crossing hne hcross hr hs (isShaped_of_scan hscanr r List.mem_cons_self)
    (isShaped_of_scan hscans s List.mem_cons_self) hrest.content_of_nil hplain
    (hworking.trans hlines.symm)
  refine computeUpdate_of_error hscan ?_
  rw [hall, updateFamilies_of_nil fun f hf => hnone f (List.mem_append_left _ hf), updateFamilies]
  refine Run.bind_eq_error_iff.2 (.inr ⟨_, t', hpass, Run.bind_eq_error_iff.2 (.inl ?_)⟩)
  rw [updateFamilies_of_nil hbetween]
  exact updateFamilies_of_scan_error hfail t'

end Run

/-- **No marker error after the first scan**: if regions of different families do not cross, then every
    later scan succeeds, and an update fails only as a fetch failed. If a document has two regions
    and they cross, then every update fails on a marker. -/
theorem fails_only_at_fetch {σ : Type} (source : Source σ) (options : UpdateOptions) :
    (∀ (document : Text) (regions : List Region), scanAll document = .ok regions →
      NoCrossing regions → source.MarkerFree options →
      (∀ (done : List Family) (f : Family) (working : Text) (updates : List RegionUpdate) (s s' : σ),
        updateFamilies source options done document s = (.ok (working, updates), s') →
          ∃ regions, scan f working = .ok regions) ∧
      ∀ (s s' : σ) (e : Error), computeUpdate source options document s = (.error e, s') →
        ∃ r t, fetch source options r t = (.error e, s')) ∧
    ∀ (document : Text) (r q : Region) (listing : Listing) (s s' : σ),
      scanAll document = .ok [r, q] → ¬ NoCrossing [r, q] →
      fetch source options r s = (.ok listing, s') → r.MarkerFree listing options →
      computeUpdate source options document s =
        (.error (if r.span.start < q.span.start then .endWithoutStart q.endMarker
          else .startWithoutEnd [q.startMarker]), s') := by
  constructor
  · intro document regions hscan hcross hfree
    exact exists_fetch_of_computeUpdate hscan hcross hfree
  · intro document r q listing s s' hscan hcross hfetch hfree
    exact computeUpdate_of_crossing hscan hcross hfetch hfree

/-- An update with a source that is down, the scan after a pass over nested regions, and an update of
    two regions that cross. -/
theorem fails_only_at_fetch_samples :
    (∃ e, computeUpdate Sample.down Sample.options Sample.nestedDocument () = (.error e, ()) ∧
      ∃ r t, fetch Sample.down Sample.options r t = (.error e, ())) ∧
    (∃ result, updateFamilies (Sample.steady Sample.profile) Sample.options [.tracks]
        Sample.nestedDocument () = (.ok result, ()) ∧
      ∃ regions, scan .artists result.1 = .ok regions) ∧
    ∃ r q, scanAll Sample.crossedDocument = .ok [r, q] ∧
      computeUpdate (Sample.steady Listing.empty) Sample.options Sample.crossedDocument () =
        (.error (if r.span.start < q.span.start then .endWithoutStart q.endMarker
          else .startWithoutEnd [q.startMarker]), ()) := by
  obtain ⟨regions, hscan, huncrossed⟩ : ∃ regions, scanAll Sample.nestedDocument = .ok regions ∧
      decide (NoCrossing regions) = true := exists_ok_of_any (by decide +kernel)
  have hcross : NoCrossing regions := of_decide_eq_true huncrossed
  refine ⟨?_, ?_, ?_⟩
  · have hfree : (Sample.down : Source Unit).MarkerFree Sample.options := fun _ _ _ _ h => nomatch h
    have hrun : computeUpdate Sample.down Sample.options Sample.nestedDocument () =
        (.error (Sample.unavailable .tracks), ()) := Prod.ext (by decide +kernel) rfl
    exact ⟨_, hrun, ((fails_only_at_fetch _ _).1 _ _ hscan hcross hfree).2 _ _ _ hrun⟩
  · obtain ⟨result, hrun, -⟩ : ∃ result, updateFamilies (Sample.steady Sample.profile) Sample.options
        [.tracks] Sample.nestedDocument () = (.ok result, ()) ∧
          (result.1 != Sample.nestedDocument) = true :=
      Run.exists_eq_ok (by decide +kernel) (Subsingleton.elim _ _)
    exact ⟨result, hrun,
      ((fails_only_at_fetch _ _).1 _ _ hscan hcross Sample.markerFree_profile).1 _ _ _ _ _ _ hrun⟩
  · obtain ⟨pair, hscan, hpair⟩ : ∃ pair, scanAll Sample.crossedDocument = .ok pair ∧
        decide (pair.length = 2 ∧ ¬ NoCrossing pair) = true := exists_ok_of_any (by decide +kernel)
    obtain ⟨hlength, hcross⟩ := of_decide_eq_true hpair
    obtain ⟨r, q, rfl⟩ := List.length_eq_two.1 hlength
    exact ⟨r, q, hscan, (fails_only_at_fetch _ _).2 _ _ _ _ _ _ hscan hcross rfl
      (Sample.markerFree_empty r () _ () rfl)⟩

/-- A document is accepted, the source replies to every request, and yet the update fails. -/
theorem not_fails_only_at_fetch_crossed :
    ∃ regions, scanAll Sample.crossedDocument = .ok regions ∧
      (Sample.steady Listing.empty : Source Unit).MarkerFree Sample.options ∧
      ∃ e, computeUpdate (Sample.steady Listing.empty) Sample.options Sample.crossedDocument () =
          (.error e, ()) ∧
        e = .endWithoutStart "<!--END_LASTFM_ARTISTS-->" ∧
        ¬ ∃ r t, fetch (Sample.steady Listing.empty) Sample.options r t = (.error e, ()) := by
  obtain ⟨regions, hscan, -⟩ : ∃ regions, scanAll Sample.crossedDocument = .ok regions ∧
      (regions.length == 2) = true := exists_ok_of_any (by decide +kernel)
  refine ⟨regions, hscan, Sample.markerFree_empty, _, Prod.ext ?_ rfl, rfl, ?_⟩
  · decide +kernel
  · rintro ⟨r, t, hfetch⟩
    cases hfetch

end ListeningCharts
