import ListeningCharts.Proofs.Covering
import ListeningCharts.Proofs.OneLine
import ListeningCharts.Proofs.Runs

/-! # What survives an update

    A document is accepted family by family, and nothing compares the markers of one family with those
    of another.

    * **One pass** over a family rewrites the lines (`rewrites_replacements`). It loses nothing but
      what lies inside the regions that it finds, however these overlap.
    * **All passes** find regions inside those of the document if regions of different families do
      not cross. Then nothing outside the regions is lost (`outside_survives`), and no marker error
      comes up after the first scan (`exists_fetch_of_computeUpdate`).

    If regions cross, a pass may take one of two matching markers out of the document, and what is
    left of the other family is an error or pairs anew.
-/

namespace ListeningCharts

variable {σ : Type} {source : Source σ} {options : UpdateOptions}

/-! ## One pass -/

section Pass

variable {families : List Family} {f : Family} {working : Text} {regions : List Region}
  {listings : List Listing}

/-- The replacements of a pass are the regions with what was rendered from their replies. -/
theorem exists_reply_of_mem {entry : Region × Text}
    (h : entry ∈ replacements options regions listings) :
    ∃ reply ∈ regions.zip listings, entry = (reply.1, reply.1.render reply.2 options) := by
  rw [replacements, ← List.map_uncurry_zip_eq_zipWith] at h
  obtain ⟨reply, hreply, rfl⟩ := List.mem_map.1 h
  exact ⟨reply, hreply, rfl⟩

/-- What a marker-free source replies in a pass. -/
theorem Source.MarkerFree.replies {s s' : σ} (hfree : source.MarkerFree options)
    (h : regions.mapM (fetch source options) s = (.ok listings, s')) :
    ∀ reply ∈ regions.zip listings, reply.1.MarkerFree reply.2 options := by
  intro reply hreply
  obtain ⟨t, t', hfetch⟩ := (List.forall₂_iff_zip.1 (Run.forall₂_of_mapM h)).2 hreply
  exact hfree _ _ _ _ hfetch

/-- **The splices of a pass rewrite the lines**, for some families for which what they take out is
    neutral. -/
theorem rewrites_replacements (haccepted : Accepted families working.lines) (hf : f ∈ families)
    (hscan : scan f working = .ok regions)
    (hbody : ∀ r ∈ regions, ∀ g ∈ families, Neutral g r.bodyLines)
    (hfree : ∀ reply ∈ regions.zip listings, reply.1.MarkerFree reply.2 options) :
    Rewrites families working.lines
      (spliceAll working (replacements options regions listings)).lines := by
  refine rewrites_spliceAll haccepted fun entry hentry => ?_
  obtain ⟨⟨r, listing⟩, hreply, rfl⟩ := exists_reply_of_mem hentry
  have hr : r ∈ regions := (List.of_mem_zip hreply).1
  exact ⟨isShaped_of_scan hscan r hr, by rwa [family_of_scan hscan r hr], hbody r hr,
    r.shown listing options, (hfree _ hreply).isPlain, r.render_eq listing options⟩

/-- For its own family alone, a pass takes out content, whatever other families do there. -/
theorem rewrites_replacements_alone (hscan : scan f working = .ok regions)
    (hfree : ∀ reply ∈ regions.zip listings, reply.1.MarkerFree reply.2 options) :
    Rewrites [f] working.lines
      (spliceAll working (replacements options regions listings)).lines := by
  have haccepted : Accepted [f] working.lines := .of_scan (by simpa using ⟨regions, hscan⟩)
  refine rewrites_replacements haccepted List.mem_cons_self hscan (fun r hr g hg => ?_) hfree
  obtain rfl := List.mem_singleton.1 hg
  have hcontent := (isShaped_of_scan hscan r hr).body_content
  rw [family_of_scan hscan r hr] at hcontent
  exact neutral_of_content hcontent

end Pass

/-! ## The invariant along a run -/

theorem WellNested.rewrites_updateFamily {working updated : Text} {f : Family}
    {updates : List RegionUpdate} {s s' : σ} (hnested : WellNested working.lines)
    (hfree : source.MarkerFree options)
    (h : updateFamily source options working f s = (.ok (updated, updates), s')) :
    Rewrites Family.all working.lines updated.lines := by
  obtain ⟨regions, listings, hscan, hlistings, rfl, -⟩ := updateFamily_eq_ok_iff.1 h
  exact rewrites_replacements hnested.accepted f.mem_all hscan
    (fun r hr g _ => hnested.neutral_body hscan r hr g) (hfree.replies hlistings)

/-- Any number of passes rewrite well nested lines. -/
theorem rewrites_updateFamilies {families : List Family} {working updated : Text}
    {updates : List RegionUpdate} {s s' : σ} (hnested : WellNested working.lines)
    (hfree : source.MarkerFree options)
    (h : updateFamilies source options families working s = (.ok (updated, updates), s')) :
    Rewrites Family.all working.lines updated.lines := by
  induction families generalizing working updates s with
  | nil =>
    obtain ⟨rfl, -, -⟩ := updateFamilies_nil_eq_ok_iff.1 h
    exact Relation.ReflTransGen.refl
  | cons f families ih =>
    obtain ⟨next, first, t, more, hfirst, hrest, -⟩ := updateFamilies_cons_eq_ok_iff.1 h
    have hstep := hnested.rewrites_updateFamily hfree hfirst
    exact hstep.trans (ih (hnested.rewrites hstep) hrest)

/-- Passes over well nested lines fail at a fetch or not at all. -/
theorem exists_fetch_of_updateFamilies {families : List Family} {working : Text} {s s' : σ}
    {e : Error} (hnested : WellNested working.lines) (hfree : source.MarkerFree options)
    (h : updateFamilies source options families working s = (.error e, s')) :
    ∃ r t, fetch source options r t = (.error e, s') := by
  induction families generalizing working s with
  | nil => cases h
  | cons f families ih =>
    rcases updateFamilies_cons_eq_error h with h | ⟨next, first, t, hfirst, hrest⟩
    · rcases updateFamily_eq_error h with hscan | hfetch
      · obtain ⟨regions, hregions⟩ := hnested.accepted.exists_scan f.mem_all
        rw [hregions] at hscan
        cases hscan
      · exact hfetch
    · exact ih (hnested.rewrites (hnested.rewrites_updateFamily hfree hfirst)) hrest

/-! ## No loss -/

/-- A pass leaves outside the regions of its family what was outside them before. -/
theorem outside_updateFamily {f : Family} {working updated : Text} {regions : List Region}
    {updates : List RegionUpdate} {s s' : σ} (hscan : scan f working = .ok regions)
    (hfree : source.MarkerFree options)
    (h : updateFamily source options working f s = (.ok (updated, updates), s')) :
    ∃ regions', scan f updated = .ok regions' ∧
      updated.outside (regions'.map Region.span) = working.outside (regions.map Region.span) := by
  obtain ⟨regions₁, listings, hscan₁, hlistings, rfl, -⟩ := updateFamily_eq_ok_iff.1 h
  rw [hscan] at hscan₁
  cases hscan₁
  exact exists_scan_of_rewrites hscan
    (rewrites_replacements_alone hscan (hfree.replies hlistings))

/-- What an update leaves outside the regions that it finds in the end is what was outside those of
    the document. -/
theorem outside_computeUpdate {document : Text} {regions : List Region} {u : DocumentUpdate}
    {s s' : σ} (hscan : scanAll document = .ok regions) (hcross : NoCrossing regions)
    (hfree : source.MarkerFree options)
    (h : computeUpdate source options document s = (.ok u, s')) :
    ∃ regions', scanAll u.updated = .ok regions' ∧
      u.updated.outside (regions'.map Region.span) =
        document.outside (regions.map Region.span) := by
  obtain ⟨-, updated, updates, -, hupdated, rfl⟩ := computeUpdate_eq_ok_iff.1 h
  have hnested := wellNested_of_scanAll hscan hcross
  have hsteps := rewrites_updateFamilies hnested hfree hupdated
  obtain ⟨found, hfound, rfl⟩ := scanAll_eq_ok_iff.1 hscan
  -- the rewritten lines are accepted for every family, so its regions can be named
  choose found' hfound' using fun f : Family =>
    (hnested.rewrites hsteps).accepted.exists_scan f.mem_all
  have houtside := outside_rewrites (fun f _ => hfound f) (fun f _ => hfound' f) hsteps
  exact ⟨_, scanAll_eq_ok_iff.2 ⟨found', hfound', rfl⟩, houtside.symm⟩

/-- **Text outside the regions is never lost**: deleting the spans of all regions leaves pieces that
    occur in the updated document in the same order, verbatim and without overlap, provided that
    regions of different families do not cross. A pass over one family keeps what is outside the
    regions that it finds in any case. -/
theorem outside_survives (source : Source σ) (options : UpdateOptions)
    (hfree : source.MarkerFree options) :
    (∀ (document : Text) (regions : List Region) (u : DocumentUpdate) (s s' : σ),
      scanAll document = .ok regions → NoCrossing regions →
      computeUpdate source options document s = (.ok u, s') →
      Text.InOrder (document.outside (regions.map Region.span)) u.updated) ∧
    ∀ (f : Family) (working updated : Text) (regions : List Region)
        (updates : List RegionUpdate) (s s' : σ),
      scan f working = .ok regions →
      updateFamily source options working f s = (.ok (updated, updates), s') →
      Text.InOrder (working.outside (regions.map Region.span)) updated := by
  constructor
  · intro document regions u s s' hscan hcross h
    obtain ⟨regions', -, houtside⟩ := outside_computeUpdate hscan hcross hfree h
    rw [← houtside]
    exact Text.inOrder_outside _ _
  · intro f working updated regions updates s s' hscan h
    obtain ⟨regions', -, houtside⟩ := outside_updateFamily hscan hfree h
    rw [← houtside]
    exact Text.inOrder_outside _ _

/-- Text around nested regions survives an update, and text around regions of one family survives a
    pass although regions of another one cross them. -/
theorem outside_survives_nested :
    (∃ regions u, scanAll Sample.nestedDocument = .ok regions ∧
      computeUpdate (Sample.steady Sample.profile) Sample.options Sample.nestedDocument () =
        (.ok u, ()) ∧
      Text.InOrder (Sample.nestedDocument.outside (regions.map Region.span)) u.updated) ∧
    ∃ regions result, scan .tracks Sample.crossedTwiceDocument = .ok regions ∧
      updateFamily (Sample.steady Sample.profile) Sample.options Sample.crossedTwiceDocument .tracks
        () = (.ok result, ()) ∧
      Text.InOrder (Sample.crossedTwiceDocument.outside (regions.map Region.span)) result.1 := by
  constructor
  · obtain ⟨regions, hscan, hcross⟩ : ∃ regions, scanAll Sample.nestedDocument = .ok regions ∧
        decide (NoCrossing regions) = true := exists_ok_of_any (by decide +kernel)
    obtain ⟨u, hrun, -⟩ : ∃ u, computeUpdate (Sample.steady Sample.profile) Sample.options
        Sample.nestedDocument () = (.ok u, ()) ∧ u.isChanged = true :=
      Run.exists_eq_ok (by decide +kernel) (Subsingleton.elim _ _)
    exact ⟨regions, u, hscan, hrun,
      (outside_survives _ _ Sample.markerFree_profile).1 _ _ _ _ _ hscan (of_decide_eq_true hcross)
        hrun⟩
  · obtain ⟨regions, hscan, -⟩ : ∃ regions, scan .tracks Sample.crossedTwiceDocument = .ok regions ∧
        (regions.length == 2) = true := exists_ok_of_any (by decide +kernel)
    obtain ⟨result, hrun, -⟩ : ∃ result, updateFamily (Sample.steady Sample.profile) Sample.options
        Sample.crossedTwiceDocument .tracks () = (.ok result, ()) ∧
          (result.1 != Sample.crossedTwiceDocument) = true :=
      Run.exists_eq_ok (by decide +kernel) (Subsingleton.elim _ _)
    exact ⟨regions, result, hscan, hrun,
      (outside_survives _ _ Sample.markerFree_profile).2 _ _ _ _ _ _ _ hscan hrun⟩

/-- Text between two pairs of regions that cross is lost, although the update succeeds. -/
theorem not_outside_survives_crossedTwice :
    ∃ regions u, scanAll Sample.crossedTwiceDocument = .ok regions ∧
      computeUpdate (Sample.steady Listing.empty) Sample.options Sample.crossedTwiceDocument () =
        (.ok u, ()) ∧
      (Sample.steady Listing.empty : Source Unit).MarkerFree Sample.options ∧
      ¬ Text.InOrder (Sample.crossedTwiceDocument.outside (regions.map Region.span)) u.updated := by
  obtain ⟨regions, hscan, houtside⟩ : ∃ regions, scanAll Sample.crossedTwiceDocument = .ok regions ∧
      decide (Sample.crossedTwiceDocument.outside (regions.map Region.span) =
        ["\nFooter.\n".toList]) = true := exists_ok_of_any (by decide +kernel)
  obtain ⟨u, hrun, hlost⟩ : ∃ u, computeUpdate (Sample.steady Listing.empty) Sample.options
      Sample.crossedTwiceDocument () = (.ok u, ()) ∧
        decide (¬ "\nFooter.\n".toList <:+: u.updated) = true :=
    Run.exists_eq_ok (by decide +kernel) (Subsingleton.elim _ _)
  refine ⟨regions, u, hscan, hrun, Sample.markerFree_empty, ?_⟩
  rw [of_decide_eq_true houtside]
  rintro ⟨front, back, hupdated, -⟩
  exact of_decide_eq_true hlost ⟨front, back, hupdated.symm⟩

/-! ## No marker error -/

/-- **Passes over regions that do not cross accept what passes before them left**, so an update fails
    only as a fetch failed. -/
theorem exists_fetch_of_computeUpdate {document : Text} {regions : List Region}
    (hscan : scanAll document = .ok regions) (hcross : NoCrossing regions)
    (hfree : source.MarkerFree options) :
    (∀ (done : List Family) (f : Family) (working : Text) (updates : List RegionUpdate) (s s' : σ),
      updateFamilies source options done document s = (.ok (working, updates), s') →
        ∃ regions, scan f working = .ok regions) ∧
    ∀ (s s' : σ) (e : Error), computeUpdate source options document s = (.error e, s') →
      ∃ r t, fetch source options r t = (.error e, s') := by
  have hnested := wellNested_of_scanAll hscan hcross
  constructor
  · intro done f working updates s s' h
    exact (hnested.rewrites (rewrites_updateFamilies hnested hfree h)).accepted.exists_scan f.mem_all
  · intro s s' e h
    exact exists_fetch_of_updateFamilies hnested hfree (computeUpdate_eq_error hscan h)

end ListeningCharts
