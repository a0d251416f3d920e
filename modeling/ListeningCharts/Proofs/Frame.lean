import ListeningCharts.Proofs.Crossing

/-! # The frame of a document

    The frame of a document for a family is what is left of its lines without the content of the
    regions: the markers of the family, and between them the lines that no region covers. However the
    regions overlap, a pass over the family keeps the frame.

    * **Covered lines** are those at which a region is open, so the frame is told by counting
      (`frame_of_scan`).
    * **A rewrite keeps the frame**: it takes place where a region is open, and takes out and puts in
      content only (`Rewrite.frame_eq`).
    * **An update of one family** cannot fail but at a fetch, if no other family has markers in the
      document (`computeUpdate_of_one_family`). What it leaves has the same markers, which give the
      same regions with the same text around them (`frame_survives`).
-/

namespace ListeningCharts

/-! ## Frames -/

/-- The frame of lines that start at byte `offset`. A line of content is covered if its end is. -/
def frameFrom (f : Family) (covered : Nat → Bool) : Nat → List Text → List Text
  | _, [] => []
  | offset, line :: lines =>
    let stop := offset + line.byteLength
    if f.role line = .content ∧ covered stop = true then frameFrom f covered (stop + 1) lines
    else line :: frameFrom f covered (stop + 1) lines

/-- The markers of a family in a document and the lines that no span of the regions covers, in their
    order. -/
def Text.frame (f : Family) (regions : List Region) (document : Text) : List Text :=
  frameFrom f (coveredBy (regions.map Region.span)) 0 document.lines

namespace Family

/-- The frame of some lines in front of which `d` regions are open. -/
def frame (f : Family) : Nat → List Text → List Text
  | _, [] => []
  | d, line :: lines =>
    if f.role line = .content ∧ d ≠ 0 then f.frame (f.after d line) lines
    else line :: f.frame (f.after d line) lines

/-- The lines that open or close a region. -/
def markerLines (f : Family) (lines : List Text) : List Text :=
  lines.filter fun line => f.role line ≠ .content

variable {f : Family} {d e : Nat} {front mid back lines lines' : List Text}

theorem frame_append (h : depth f d front = some e) :
    f.frame d (front ++ back) = f.frame d front ++ f.frame e back := by
  induction front generalizing d with
  | nil =>
    cases h
    rfl
  | cons line front ih =>
    obtain ⟨-, hrest⟩ := depth_cons_eq_some h
    rw [List.cons_append, frame, frame, ih hrest]
    split
    · rfl
    · rfl

/-- Content inside a region is not of the frame. -/
theorem frame_of_open (hd : d ≠ 0) (h : ∀ l ∈ lines, f.role l = .content) :
    f.frame d lines = [] := by
  induction lines with
  | nil => rfl
  | cons line lines ih =>
    obtain ⟨hline, hlines⟩ := List.forall_mem_cons.1 h
    rw [frame, if_pos ⟨hline, hd⟩, after_of_content hline, ih hlines]

/-- Whatever content stands inside a region, the frame is that of the lines around it. -/
theorem frame_around (hfront : depth f 0 front = some (d + 1))
    (hmid : ∀ l ∈ mid, f.role l = .content) :
    f.frame 0 (front ++ mid ++ back) = f.frame 0 front ++ f.frame (d + 1) back := by
  have hmiddepth : depth f (d + 1) mid = some (d + 1) := depth_of_content hmid
  have hdepth : depth f 0 (front ++ mid) = some (d + 1) := by
    rw [depth_append, hfront]
    exact hmiddepth
  rw [frame_append hdepth, frame_append hfront, frame_of_open (Nat.succ_ne_zero d) hmid,
    List.append_nil]

/-- All markers are of the frame. -/
theorem markerLines_frame : f.markerLines (f.frame d lines) = f.markerLines lines := by
  unfold markerLines
  induction lines generalizing d with
  | nil => rfl
  | cons line lines ih =>
    rw [frame, List.filter_cons]
    split
    · next h => rw [ih, if_neg (by simp [h.1])]
    · rw [List.filter_cons, ih]

/-- The lines of a role are among the markers. -/
theorem filter_markerLines {role : Role} (hne : role ≠ .content) :
    (f.markerLines lines).filter (fun line => f.role line = role) =
      lines.filter fun line => f.role line = role := by
  unfold markerLines
  rw [List.filter_filter]
  refine List.filter_congr fun line _ => ?_
  by_cases hrole : f.role line = role
  · simp [hrole, hne]
  · simp [hrole]

end Family

variable {f : Family} {lines lines' : List Text}

/-- **A rewrite keeps the frame**. -/
theorem Rewrite.frame_eq (h : Rewrite [f] lines lines') : f.frame 0 lines' = f.frame 0 lines := by
  obtain ⟨g, hg, front, mid, new, back, d, rfl, rfl, hfront, hmid, -, hnew⟩ := h.parts
  obtain rfl := List.mem_singleton.1 hg
  rw [Family.frame_around hfront hmid,
    Family.frame_around hfront fun l hl => (hnew l hl).content g]

theorem Rewrites.frame_eq (h : Rewrites [f] lines lines') : f.frame 0 lines' = f.frame 0 lines := by
  induction h with
  | refl => rfl
  | tail _ hstep ih => exact hstep.frame_eq.trans ih

/-- A rewrite puts no markers of other families into lines without them. -/
theorem Rewrites.content {g : Family} (h : Rewrites [f] lines lines')
    (hlines : ∀ l ∈ lines, g.role l = .content) : ∀ l ∈ lines', g.role l = .content := by
  induction h with
  | refl => exact hlines
  | tail _ hstep ih =>
    obtain ⟨_, -, front, mid, new, back, d, rfl, rfl, -, -, -, hnew⟩ := hstep.parts
    simp only [List.forall_mem_append] at ih ⊢
    exact ⟨⟨ih.1.1, fun l hl => (hnew l hl).content g⟩, ih.2⟩

/-! ## Frames by spans -/

/-- A line of content is covered exactly if a region is open at it. -/
theorem Covering.frameFrom_eq {covered : Nat → Bool} {pending : Family → List OpenRegion}
    {offset : Nat} {regions : Family → List Region}
    (h : Covering [f] covered pending offset lines regions) :
    frameFrom f covered offset lines = f.frame (pending f).length lines := by
  induction lines generalizing offset pending regions with
  | nil => rfl
  | cons line lines ih =>
    obtain ⟨pending', regions', hnext, hcounts⟩ := h.exists_next
    have hcount : (pending' f).length = f.after (pending f).length line :=
      hcounts f List.mem_cons_self
    have hcovered : f.role line = .content ∧ covered (offset + line.byteLength) = true ↔
        f.role line = .content ∧ (pending f).length ≠ 0 := by
      refine and_congr_right fun hrole => ?_
      have hafter : (pendingCounts pending).after line f = (pending f).length :=
        after_of_content hrole
      rw [h.covered_lineFeed, Bool.not_eq_true', ← Bool.not_eq_true, Counts.isZero_iff]
      simp [hafter]
    have hrest := ih hnext
    rw [hcount] at hrest
    simp only [frameFrom, Family.frame, hcovered, hrest]

/-- **The frame of a document is told by counting**. -/
theorem frame_of_scan {document : Text} {regions : List Region}
    (h : scan f document = .ok regions) : document.frame f regions = f.frame 0 document.lines := by
  have hcovering : Covering [f] (coveredBy (([f].flatMap fun _ => regions).map Region.span))
      (fun _ => []) 0 document.lines fun _ => regions := covering_of_scan (by simpa using h)
  have hframe := hcovering.frameFrom_eq
  simp only [List.flatMap_cons, List.flatMap_nil, List.append_nil] at hframe
  exact hframe

/-! ## Regions by their markers -/

/-- The markers of a region, and the configuration that it has from them. -/
def Region.heading (r : Region) : Text × Text × RegionConfig :=
  (r.startMarker, r.endMarker, r.config)

/-- Documents with the same markers have the same regions, apart from what is in them. -/
theorem map_heading_eq {document updated : Text} {regions regions' : List Region}
    (h : scan f document = .ok regions) (h' : scan f updated = .ok regions')
    (hmarkers : f.markerLines updated.lines = f.markerLines document.lines) :
    regions'.map Region.heading = regions.map Region.heading := by
  have hstarts : regions'.map Region.startMarker = regions.map Region.startMarker := by
    rw [(scan_eq_ok_iff.1 h).map_startMarker, (scan_eq_ok_iff.1 h').map_startMarker,
      ← Family.filter_markerLines (by simp), hmarkers, Family.filter_markerLines (by simp)]
  have hends : regions'.map Region.endMarker = regions.map Region.endMarker := by
    rw [(scan_eq_ok_iff.1 h).map_endMarker, (scan_eq_ok_iff.1 h').map_endMarker,
      ← Family.filter_markerLines (by simp), hmarkers, Family.filter_markerLines (by simp)]
  have hlength : regions'.length = regions.length := by
    simpa using congrArg List.length hstarts
  refine List.ext_getElem (by simpa using hlength) fun i hi hi' => ?_
  rw [List.length_map] at hi hi'
  have hstart := List.getElem_of_eq hstarts (by simpa using hi)
  have hend := List.getElem_of_eq hends (by simpa using hi)
  rw [List.getElem_map, List.getElem_map] at hstart hend
  -- the configuration is read from the start marker
  have hopens := (isShaped_of_scan h _ (List.getElem_mem hi')).opens
  have hopens' := (isShaped_of_scan h' _ (List.getElem_mem hi)).opens
  rw [family_of_scan h _ (List.getElem_mem hi')] at hopens
  rw [family_of_scan h' _ (List.getElem_mem hi), hstart, hopens] at hopens'
  have hconfig : regions'[i].config = regions[i].config := by
    simpa using hopens'.symm
  rw [List.getElem_map, List.getElem_map, Region.heading, Region.heading, hstart, hend, hconfig]

/-! ## The update of one family -/

section Run

variable {σ : Type} {source : Source σ} {options : UpdateOptions} {document : Text}
  {regions : List Region} {listings : List Listing} {s s' : σ}

/-- If only one family has markers in a document, then its pass is all of the update. -/
theorem computeUpdate_of_one_family (hscan : scan f document = .ok regions)
    (hothers : ∀ g, g ≠ f → ∀ l ∈ document.lines, g.role l = .content)
    (hfetch : regions.mapM (fetch source options) s = (.ok listings, s'))
    (hfree : ∀ reply ∈ regions.zip listings, reply.1.MarkerFree reply.2 options) :
    ∃ updates, computeUpdate source options document s = (.ok {
      previous := document
      updated := spliceAll document (replacements options regions listings)
      regions := updates }, s') := by
  have hsteps := rewrites_replacements_alone hscan hfree
  have hpass := updateFamily_eq_ok_iff.2 ⟨regions, listings, hscan, hfetch, rfl, rfl⟩
  have hfound : ∀ g, scan g document = .ok (if g = f then regions else []) := by
    intro g
    by_cases hg : g = f
    · rw [if_pos hg, hg, hscan]
    · rw [if_neg hg, scan_of_content (hothers g hg)]
  -- the families in front of this one and behind it are other ones
  obtain ⟨before, behind, hall⟩ := List.append_of_mem f.mem_all
  have hnodup : Family.all.Nodup := by decide
  rw [hall, List.nodup_append, List.nodup_cons] at hnodup
  obtain ⟨-, ⟨hbehind, -⟩, hbefore⟩ := hnodup
  have hfront : ∀ g ∈ before, scan g document = .ok [] := fun g hg =>
    scan_of_content (hothers g (hbefore g hg f List.mem_cons_self))
  have hback : ∀ g ∈ behind,
      scan g (spliceAll document (replacements options regions listings)) = .ok [] := by
    intro g hg
    have hne : g ≠ f := fun heq => hbehind (heq ▸ hg)
    exact scan_of_content (hsteps.content (hothers g hne))
  have hrest : updateFamilies source options (behind ++ []) _ s' =
      updateFamilies source options [] _ s' := updateFamilies_of_nil hback [] s'
  rw [List.append_nil] at hrest
  have hall' := updateFamilies_cons_eq_ok_iff.2 ⟨_, _, s', [], hpass, hrest, rfl⟩
  rw [← updateFamilies_of_nil hfront, ← hall] at hall'
  exact ⟨_, computeUpdate_eq_ok_iff.2 ⟨_, _, _, scanAll_eq_ok_iff.2 ⟨_, hfound, rfl⟩, hall', rfl⟩⟩

end Run

/-- **Regions of one family keep the frame of the document**, however they overlap and even if their
    markers are the same: if only this family has markers and the replies are marker-free, then the
    update succeeds and keeps all markers. So it leaves regions with the same markers and the same
    configurations, and around them, between the same markers, the same text. -/
theorem frame_survives {σ : Type} (source : Source σ) (options : UpdateOptions) (f : Family)
    (document : Text) (regions : List Region) (listings : List Listing) (s s' : σ)
    (hscan : scan f document = .ok regions)
    (hothers : ∀ g, g ≠ f → ∀ l ∈ document.lines, ¬ g.startPrefix <+: l ∧ ¬ g.endPrefix <+: l)
    (hfetch : regions.mapM (fetch source options) s = (.ok listings, s'))
    (hfree : ∀ reply ∈ regions.zip listings, reply.1.MarkerFree reply.2 options) :
    ∃ u regions', computeUpdate source options document s = (.ok u, s') ∧
      f.markerLines u.updated.lines = f.markerLines document.lines ∧
      scan f u.updated = .ok regions' ∧
      regions'.map Region.heading = regions.map Region.heading ∧
      u.updated.frame f regions' = document.frame f regions ∧
      u.updated.outside (regions'.map Region.span) =
        document.outside (regions.map Region.span) := by
  have hcontent : ∀ g, g ≠ f → ∀ l ∈ document.lines, g.role l = .content :=
    fun g hne l hl => Family.role_eq_content_iff.2 (hothers g hne l hl)
  obtain ⟨updates, hupdate⟩ := computeUpdate_of_one_family hscan hcontent hfetch hfree
  have hsteps := rewrites_replacements_alone hscan hfree
  have hframe := hsteps.frame_eq
  have hmarkers := congrArg f.markerLines hframe
  rw [Family.markerLines_frame, Family.markerLines_frame] at hmarkers
  obtain ⟨regions', hscan', houtside⟩ := exists_scan_of_rewrites hscan hsteps
  refine ⟨_, regions', hupdate, hmarkers, hscan', map_heading_eq hscan hscan' hmarkers, ?_,
    houtside⟩
  rw [frame_of_scan hscan, frame_of_scan hscan', hframe]

/-- An update of two regions that overlap and have the same markers, which changes one of them. -/
theorem frame_survives_overlapping :
    ∃ regions u, scan .tracks Sample.overlappingDocument = .ok regions ∧
      computeUpdate (Sample.steady Sample.profile) Sample.options Sample.overlappingDocument () =
        (.ok u, ()) ∧
      u.updated ≠ Sample.overlappingDocument ∧
      Family.markerLines .tracks u.updated.lines =
        Family.markerLines .tracks Sample.overlappingDocument.lines ∧
      ∃ regions', scan .tracks u.updated = .ok regions' ∧
        regions'.map Region.heading = regions.map Region.heading ∧
        u.updated.frame .tracks regions' = Sample.overlappingDocument.frame .tracks regions := by
  obtain ⟨regions, hscan, hlength⟩ : ∃ regions,
      scan .tracks Sample.overlappingDocument = .ok regions ∧ (regions.length == 2) = true :=
    exists_ok_of_any (by decide +kernel)
  obtain ⟨r, q, rfl⟩ := List.length_eq_two.1 (eq_of_beq hlength)
  have hothers : ∀ g, g ≠ Family.tracks → ∀ l ∈ Sample.overlappingDocument.lines,
      ¬ g.startPrefix <+: l ∧ ¬ g.endPrefix <+: l := by
    have hall : ∀ g ∈ Family.all, g ≠ .tracks → ∀ l ∈ Sample.overlappingDocument.lines,
        ¬ g.startPrefix <+: l ∧ ¬ g.endPrefix <+: l := by decide +kernel
    exact fun g => hall g g.mem_all
  have hfamily := family_of_scan hscan
  have hfetch : [r, q].mapM (fetch (Sample.steady Sample.profile) Sample.options) () =
      (.ok [Sample.profile r.family, Sample.profile q.family], ()) := rfl
  have hfree : ∀ reply ∈ [r, q].zip [Sample.profile r.family, Sample.profile q.family],
      reply.1.MarkerFree reply.2 Sample.options := by
    intro reply hreply
    simp only [List.zip_cons_cons, List.zip_nil_right, List.mem_cons, List.not_mem_nil,
      or_false] at hreply
    rcases hreply with rfl | rfl
    · exact Sample.markerFree_profile r () _ () rfl
    · exact Sample.markerFree_profile q () _ () rfl
  obtain ⟨u, regions', hupdate, hmarkers, hscan', hheadings, hframe, -⟩ :=
    frame_survives _ _ _ _ _ _ () () hscan hothers hfetch hfree
  refine ⟨_, u, hscan, hupdate, ?_, hmarkers, regions', hscan', hheadings, hframe⟩
  obtain ⟨u', hupdate', hchanged⟩ : ∃ u',
      computeUpdate (Sample.steady Sample.profile) Sample.options Sample.overlappingDocument () =
        (.ok u', ()) ∧ (u'.updated != Sample.overlappingDocument) = true :=
    Run.exists_eq_ok (by decide +kernel) (Subsingleton.elim _ _)
  rw [hupdate] at hupdate'
  cases hupdate'
  exact bne_iff_ne.1 hchanged

end ListeningCharts
