import ListeningCharts.Proofs.Idempotence
import ListeningCharts.Proofs.Losses
import ListeningCharts.Proofs.Reports

/-! # Reported changes

    A report tells of a change if the rendered text differs from the text of the region, whether or
    not the document holds that text. So the reports of an update and its document can disagree, but
    only in one direction.

    * **A document that changes is reported.** If no report tells of a change, every splice puts the
      text of a region in the place of itself (`updated_eq_of_unchanged`).
    * **A report of a change is true if regions of one family are apart.** Suppose that all changes
      cancelled. Then no marker was lost, so no region lies inside another one or crosses it
      (`pairwise_disjoint_of_updated_eq`), and the update settles an outline. An outline that is the
      same when it is settled shows what it showed before (`Outline.settled_eq_self`).

    If regions of one family overlap, their texts need not be found anywhere, and then nothing is
    replaced although a change is reported.
-/

namespace ListeningCharts

variable {σ : Type} {source : Source σ} {options : UpdateOptions} {document : Text}
  {u : DocumentUpdate} {s s' : σ}

/-! ## No change reported -/

theorem splicedBy_fullText {entries : List (Region × Text)}
    (h : ∀ entry ∈ entries, entry.2 = entry.1.fullText) : splicedBy document entries = document := by
  induction entries with
  | nil => rfl
  | cons entry entries ih =>
    obtain ⟨hentry, hentries⟩ := List.forall_mem_cons.1 h
    show splicedBy (entry.1.splice document entry.2) entries = document
    rw [hentry, Region.splice_fullText, ih hentries]

/-- A pass without a reported change leaves the document as it is. -/
theorem updateFamily_of_unchanged {f : Family} {working updated : Text}
    {updates : List RegionUpdate}
    (h : updateFamily source options working f s = (.ok (updated, updates), s'))
    (hunchanged : ∀ report ∈ updates, report.changed = false) : updated = working := by
  obtain ⟨regions, listings, -, -, rfl, rfl⟩ := updateFamily_eq_ok_iff.1 h
  rw [← List.map_uncurry_zip_eq_zipWith] at hunchanged
  rw [spliceAll_eq_splicedBy]
  apply splicedBy_fullText
  intro entry hentry
  obtain ⟨⟨r, listing⟩, hreply, rfl⟩ := exists_reply_of_mem (mem_latestFirst.1 hentry)
  have hreport := hunchanged _ (List.mem_map_of_mem hreply)
  exact bne_eq_false_iff_eq.1 hreport

theorem updateFamilies_of_unchanged {families : List Family} {working updated : Text}
    {updates : List RegionUpdate}
    (h : updateFamilies source options families working s = (.ok (updated, updates), s'))
    (hunchanged : ∀ report ∈ updates, report.changed = false) : updated = working := by
  induction families generalizing working updates s with
  | nil =>
    obtain ⟨rfl, -, -⟩ := updateFamilies_nil_eq_ok_iff.1 h
    rfl
  | cons f families ih =>
    obtain ⟨next, first, t, more, hfirst, hrest, rfl⟩ := updateFamilies_cons_eq_ok_iff.1 h
    obtain ⟨hunchangedFirst, hunchangedMore⟩ := List.forall_mem_append.1 hunchanged
    rw [ih hrest hunchangedMore]
    exact updateFamily_of_unchanged hfirst hunchangedFirst

/-- **An update that reports no change makes none**, in any document. -/
theorem updated_eq_of_unchanged (h : computeUpdate source options document s = (.ok u, s'))
    (hcount : u.changedCount = 0) : u.updated = document := by
  obtain ⟨_, updated, updates, -, hrun, rfl⟩ := computeUpdate_eq_ok_iff.1 h
  apply updateFamilies_of_unchanged hrun
  intro report hreport
  have hnot := List.countP_eq_zero.1 hcount report hreport
  simpa using hnot

/-! ## No change made -/

namespace Outline

/-- An outline with the lines that it has when it is settled is settled. -/
theorem settled_eq_self {shown : Region → List Text} {o : Outline} (hflat : o.IsFlat)
    (hvalid : o.IsValid) (hshown : ∀ r ∈ o.roots, ∀ l ∈ shown r, IsPlain l)
    (heq : (o.settled shown).lines = o.lines) : o.settled shown = o := by
  induction o with
  | nil => rfl
  | line text rest ih =>
    have hrest := (List.cons.inj heq).2
    rw [settled, ih hflat hvalid.2 hshown hrest]
  | region r body rest _ ihRest =>
    obtain ⟨hbody, hflat⟩ := hflat
    obtain ⟨hmarked, hcontent, -, hvalid⟩ := hvalid
    have hfirst := hshown r List.mem_cons_self
    have hothers : ∀ s ∈ rest.roots, ∀ l ∈ shown s, IsPlain l :=
      fun s hs => hshown s (List.mem_cons_of_mem _ hs)
    have hclosing : ∀ bodyLines : List Text, (∀ l ∈ bodyLines, r.family.role l = .content) →
        r.endMarker ∉ bodyLines := by
      intro bodyLines h hmem
      have hrole := h _ hmem
      rw [hmarked.closes] at hrole
      cases hrole
    -- the end marker is the first line behind the start marker that closes the region
    have htail : shown r ++ r.endMarker :: (rest.settled shown).lines =
        body.lines ++ r.endMarker :: rest.lines := by
      simpa [settled, lines] using heq
    rcases append_cons_cases htail with ⟨mid, hmid, -⟩ | ⟨hsame, -, hrest⟩ | ⟨mid, hmid, -⟩
    · exact absurd (by simp [hmid]) (hclosing _ hcontent)
    · rw [settled, ihRest hflat hvalid hothers hrest, hsame, ← eq_ofLines hbody]
    · exact absurd (by simp [hmid]) (hclosing _ fun l hl => (hfirst l hl).content r.family)

end Outline

/-- **An update that makes no change has found disjoint regions**, if those of one family are disjoint:
    around a marker of another region it would have lost that marker. -/
theorem pairwise_disjoint_of_updated_eq {regions : List Region} (hfree : source.MarkerFree options)
    (hscan : scanAll document = .ok regions)
    (hfamily : regions.Pairwise fun r r' => r.family = r'.family → r.span.Disjoint r'.span)
    (h : computeUpdate source options document s = (.ok u, s')) (hsame : u.updated = document) :
    regions.Pairwise fun r r' => r.span.Disjoint r'.span := by
  obtain ⟨found, hfound, rfl⟩ := scanAll_eq_ok_iff.1 hscan
  obtain ⟨_, updated, updates, -, hrun, rfl⟩ := computeUpdate_eq_ok_iff.1 h
  obtain rfl : updated = document := hsame
  have hbetween := exists_between_of_updateFamilies hfree hrun rfl
  have hnumber : ∀ r ∈ Family.all.flatMap found, ∃ k front inside back,
      r.IsNumber r.family updated.lines k front inside back ∧
      ∀ l ∈ inside, ∀ g : Family, g.role l = .content := by
    intro r hr
    obtain ⟨f, hf, hr⟩ := List.mem_flatMap.1 hr
    obtain rfl := family_of_scan (hfound f) r hr
    obtain ⟨between, others, hmarkers, hothers, hbodies⟩ := hbetween r.family hf
    obtain ⟨k, hk⟩ := List.mem_iff_getElem?.1 hr
    obtain ⟨front, inside, back, hnumber⟩ := isNumber_of_scan (hfound r.family) hk
    have hdisjoint := pairwise_disjoint_of_family hfound hfamily r.family
    exact ⟨k, front, inside, back, hnumber, content_inside_of_between (hfound r.family) hdisjoint
      hothers hmarkers hbodies hk hnumber⟩
  apply hfamily.imp_of_mem
  intro r r' hr hr' hdisjoint
  by_cases hsameFamily : r.family = r'.family
  · exact hdisjoint hsameFamily
  · obtain ⟨k, front, inside, back, hk, hcontent⟩ := hnumber r hr
    obtain ⟨k', front', inside', back', hk', hcontent'⟩ := hnumber r' hr'
    exact hk.disjoint_of_ne hsameFamily hk' hcontent hcontent'

/-- **An update that makes no change reports none**, if regions of one family are disjoint. -/
theorem changedCount_eq_zero {regions : List Region} (hfree : source.MarkerFree options)
    (hscan : scanAll document = .ok regions)
    (hfamily : regions.Pairwise fun r r' => r.family = r'.family → r.span.Disjoint r'.span)
    (h : computeUpdate source options document s = (.ok u, s')) (hsame : u.updated = document) :
    u.changedCount = 0 := by
  have hdisjoint := pairwise_disjoint_of_updated_eq hfree hscan hfamily h hsame
  have hnodup := nodup_of_scanAll hscan
  have hall := requested_of_disjoint hscan hdisjoint
  -- the update ends as the fetches for the regions do, so these succeed
  have hending : (computeUpdate source options document).ending s = _ :=
    ending_computeUpdate source options hscan (laminar_of_disjoint hdisjoint)
      (.of_markerFree hfree)
  rw [Run.ending_of_ok h] at hending
  obtain ⟨listings, hfetch⟩ := Run.exists_of_ending hending.symm
  obtain ⟨o, hvalid, hne, hlocated, hflat, rfl, rfl⟩ := Outline.exists_of_disjoint hscan hdisjoint
  obtain ⟨reply, -, hplain, hrun⟩ := Outline.exists_reply_of_requested hvalid hne hlocated hnodup
    hfetch (hfree.replies hfetch)
  rw [h] at hrun
  cases hrun
  rw [← Outline.requested_eq_requests hvalid hlocated, hall] at hplain
  have hroots : ∀ r ∈ o.roots, ∀ l ∈ Outline.shownBy options reply r, IsPlain l := fun r hr =>
    hplain r ((Outline.mem_flatMap_nodes hvalid).2 (Outline.mem_regions_of_mem_roots r hr))
  have hlines := congrArg Text.lines hsame
  rw [Text.lines_joinLines (Outline.lines_settled_ne_nil hne) (hvalid.settled hroots).one,
    Text.lines_joinLines hne hvalid.one] at hlines
  have hsettled := Outline.settled_eq_self hflat hvalid hroots hlines
  rw [DocumentUpdate.changedCount, List.countP_eq_zero]
  intro report hreport
  dsimp only at hreport
  rw [← hsettled] at hreport
  simp [Outline.changed_eq_false options reply Family.all o report hreport]

/-! ## The agreement -/

/-- **Reports and document agree**, for every update that succeeds.

    * If the document changes, a region is reported as changed, whatever the regions and the replies
      are.
    * With marker-free replies, and if regions of one family are disjoint, a region is reported as
      changed only if the document changes. Regions of different families may lie to each other in
      any way. -/
theorem changes_reported {σ : Type} (source : Source σ) (options : UpdateOptions) (document : Text)
    (u : DocumentUpdate) (s s' : σ) (h : computeUpdate source options document s = (.ok u, s')) :
    (u.isChanged = true → 0 < u.changedCount) ∧
    ∀ regions, source.MarkerFree options → scanAll document = .ok regions →
      (regions.Pairwise fun r r' => r.family = r'.family → r.span.Disjoint r'.span) →
      (u.isChanged = true ↔ 0 < u.changedCount) := by
  have hprevious : u.previous = document := by
    obtain ⟨_, _, _, -, -, rfl⟩ := computeUpdate_eq_ok_iff.1 h
    rfl
  have hchanged : u.isChanged = true ↔ u.updated ≠ document := by
    rw [DocumentUpdate.isChanged, hprevious, bne_iff_ne, ne_comm]
  have hreported : u.isChanged = true → 0 < u.changedCount := by
    intro hisChanged
    apply Nat.pos_of_ne_zero
    intro hcount
    exact hchanged.1 hisChanged (updated_eq_of_unchanged h hcount)
  refine ⟨hreported, fun regions hfree hscan hfamily => ⟨hreported, fun hcount => ?_⟩⟩
  apply hchanged.2
  intro hsame
  rw [changedCount_eq_zero hfree hscan hfamily h hsame] at hcount
  exact Nat.lt_irrefl 0 hcount

/-- Regions that cross those of another family, in a document that changes. -/
theorem changes_reported_crossedTwice :
    ∃ regions u, scanAll Sample.crossedTwiceDocument = .ok regions ∧
      ¬ (regions.Pairwise fun r r' => r.span.Disjoint r'.span) ∧
      computeUpdate (Sample.steady Listing.empty) Sample.options Sample.crossedTwiceDocument () =
        (.ok u, ()) ∧
      u.isChanged = true ∧ 0 < u.changedCount := by
  obtain ⟨regions, hscan, hfound⟩ : ∃ regions, scanAll Sample.crossedTwiceDocument = .ok regions ∧
      decide (¬ (regions.Pairwise fun r r' => r.span.Disjoint r'.span) ∧
        regions.Pairwise fun r r' => r.family = r'.family → r.span.Disjoint r'.span) = true :=
    exists_ok_of_any (by decide +kernel)
  obtain ⟨hcross, hfamily⟩ := of_decide_eq_true hfound
  obtain ⟨u, hrun, hchanged⟩ : ∃ u, computeUpdate (Sample.steady Listing.empty) Sample.options
      Sample.crossedTwiceDocument () = (.ok u, ()) ∧ u.isChanged = true :=
    Run.exists_eq_ok (by decide +kernel) (Subsingleton.elim _ _)
  exact ⟨regions, u, hscan, hcross, hrun, hchanged,
    ((changes_reported _ _ _ _ _ _ hrun).2 regions Sample.markerFree_empty hscan hfamily).1 hchanged⟩

/-- Two regions that overlap are both reported as changed, and the document is as it was. -/
theorem not_changes_reported_interleaved :
    ∃ regions u, scanAll Sample.interleavedDocument = .ok regions ∧
      (Sample.steady Listing.empty : Source Unit).MarkerFree Sample.options ∧
      computeUpdate (Sample.steady Listing.empty) Sample.options Sample.interleavedDocument () =
        (.ok u, ()) ∧
      u.changedCount = 2 ∧ u.updated = Sample.interleavedDocument ∧
      ¬ (u.isChanged = true ↔ 0 < u.changedCount) := by
  obtain ⟨regions, hscan, -⟩ : ∃ regions, scanAll Sample.interleavedDocument = .ok regions ∧
      (regions.length == 2) = true := exists_ok_of_any (by decide +kernel)
  obtain ⟨u, hrun, hu⟩ : ∃ u, computeUpdate (Sample.steady Listing.empty) Sample.options
      Sample.interleavedDocument () = (.ok u, ()) ∧
        decide (u.changedCount = 2 ∧ u.updated = Sample.interleavedDocument ∧
          u.isChanged = false) = true :=
    Run.exists_eq_ok (by decide +kernel) (Subsingleton.elim _ _)
  obtain ⟨hcount, hupdated, hchanged⟩ := of_decide_eq_true hu
  refine ⟨regions, u, hscan, Sample.markerFree_empty, hrun, hcount, hupdated, fun hiff => ?_⟩
  have htrue := hiff.2 (by rw [hcount]; exact Nat.two_pos)
  rw [hchanged] at htrue
  cases htrue

end ListeningCharts
