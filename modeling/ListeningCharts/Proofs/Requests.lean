import ListeningCharts.Proofs.Equation
import ListeningCharts.Proofs.Views
import Mathlib.Data.List.Pairwise

/-! # The requests of an update

    Every family is scanned in the text that the families before it left, so the later requests of
    an update are read from a text that holds the replies to the earlier ones. If the replies are
    marker-free, they have no say in it all the same: an update ends as the fetches do that can be
    told from the document alone (`ending_computeUpdate`).

    * **Which**: the fetches of a laminar document are those for its requested regions. If the spans
      are pairwise disjoint, every region is requested, family by family and from top to bottom.
    * **How far**: the fetches are made one after the other up to the first that fails, and its
      error is the error of the update.
    * **How many rows**: no request asks for less than one row or for more than fifty, in any
      document.
-/

namespace ListeningCharts

variable {σ : Type} {source : Source σ} {options : UpdateOptions} {document : Text}
  {regions rs : List Region} {s s' : σ} {e : Error}

/-! ## Replies -/

/-- While the regions are fetched one after the other, up to the first that fails, every reply is
    marker-free. -/
def Source.FreeReplies (source : Source σ) (options : UpdateOptions) (regions : List Region)
    (s : σ) : Prop :=
  ∀ front r back listings t listing t', regions = front ++ r :: back →
    front.mapM (fetch source options) s = (.ok listings, t) →
    fetch source options r t = (.ok listing, t') → r.MarkerFree listing options

namespace Source.FreeReplies

theorem of_markerFree (h : source.MarkerFree options) : source.FreeReplies options regions s :=
  fun _ r _ _ t listing t' _ _ hfetch => h r t listing t' hfetch

theorem left (h : source.FreeReplies options (regions ++ rs) s) :
    source.FreeReplies options regions s := by
  intro front r back listings t listing t' hregions hfront hfetch
  refine h front r (back ++ rs) listings t listing t' ?_ hfront hfetch
  rw [hregions, List.append_assoc, List.cons_append]

theorem right (h : source.FreeReplies options (regions ++ rs) s) {listings : List Listing}
    (hregions : regions.mapM (fetch source options) s = (.ok listings, s')) :
    source.FreeReplies options rs s' := by
  intro front r back others t listing t' hrs hfront hfetch
  refine h (regions ++ front) r back (listings ++ others) t listing t' ?_ ?_ hfetch
  · rw [hrs, List.append_assoc]
  · exact Run.mapM_append_eq_ok_iff.2 ⟨_, _, _, hregions, hfront, rfl⟩

/-- If all fetches succeed, all replies are marker-free. -/
theorem markerFree_of_mapM {reply : Region → Listing} (h : source.FreeReplies options regions s)
    (hregions : regions.mapM (fetch source options) s = (.ok (regions.map reply), s')) :
    ∀ r ∈ regions, r.MarkerFree (reply r) options := by
  -- on the regions: a fetch that succeeds leaves the assumption to those behind it
  induction regions generalizing s with
  | nil => simp
  | cons r regions ih =>
    obtain ⟨listing, t, listings, hr, hrest, heq⟩ := Run.mapM_cons_eq_ok_iff.1 hregions
    rw [List.map_cons] at heq
    obtain ⟨rfl, rfl⟩ := List.cons.inj heq
    have hone : [r].mapM (fetch source options) s = (.ok [reply r], t) :=
      Run.mapM_cons_eq_ok_iff.2 ⟨_, t, [], hr, Run.mapM_nil_eq_ok_iff.2 ⟨rfl, rfl⟩, rfl⟩
    have hfirst : r.MarkerFree (reply r) options :=
      h [] r regions [] s _ t rfl (Run.mapM_nil_eq_ok_iff.2 ⟨rfl, rfl⟩) hr
    have hothers : source.FreeReplies options ([r] ++ regions) s := h
    exact List.forall_mem_cons.2 ⟨hfirst, ih (hothers.right hone) hrest⟩

end Source.FreeReplies

/-! ## An update ends as its fetches do -/

theorem ending_renderRegion (working : Text) (r : Region) (s : σ) :
    (renderRegion source options working r).ending s = (fetch source options r).ending s := by
  rw [renderRegion_eq]
  exact Run.ending_bind_pure _ _ s

namespace Outline

variable {o : Outline}

/-- A pass ends as the fetches do for the regions of its family. -/
theorem ending_updateFamily (hvalid : o.IsValid) (hne : o.lines ≠ []) (f : Family) (s : σ) :
    (updateFamily source options (Text.joinLines o.lines) f).ending s =
      ((o.nodes [] f).mapM (fetch source options)).ending s := by
  -- what the scan finds has the requests of the regions of the outline
  rw [updateFamily, scan_eq hvalid hne f, ← mapM_fetch_visits]
  show ((((o.visits f 0).map Prod.snd).mapM (renderRegion source options _)) >>= fun rendered =>
    pure (spliceAll _ (rendered.map Prod.snd), rendered.map Prod.fst)).ending s = _
  rw [Run.ending_bind_pure]
  exact Run.ending_mapM_congr (fun r t => ending_renderRegion _ r t) _ s

/-- **Passes end as their fetches do**: the replies to earlier fetches do not change later ones. -/
theorem ending_updateFamilies {families : List Family} (hfamilies : families.Nodup)
    (hvalid : o.IsValid) (hne : o.lines ≠ []) (hnodup : (o.requests [] families).Nodup)
    (hfree : source.FreeReplies options (o.requests [] families) s) :
    (updateFamilies source options families (Text.joinLines o.lines)).ending s =
      ((o.requests [] families).mapM (fetch source options)).ending s := by
  induction families generalizing o s with
  | nil => rfl
  | cons f families ih =>
    obtain ⟨hf, hfamilies⟩ := List.nodup_cons.1 hfamilies
    rw [requests, List.nil_append] at hnodup hfree ⊢
    rw [updateFamilies, List.mapM_append]
    apply Run.ending_bind_congr (ending_updateFamily hvalid hne f s)
    rintro ⟨next, first⟩ listings t hpass hfetch
    rw [Run.ending_bind_pure, Run.ending_bind_pure]
    -- with marker-free replies the pass leaves the text of an outline, in which the regions that
    -- are left are the same
    obtain ⟨reply, rfl⟩ := exists_reply hnodup.of_append_left
      (Run.forall₂_of_mapM hfetch).length_eq
    have hplain : ∀ r ∈ o.nodes [] f, ∀ l ∈ shownBy options reply r, IsPlain l :=
      fun r hr => (hfree.left.markerFree_of_mapM hfetch r hr).isPlain
    rw [updateFamily_of_fetch hvalid hne hfetch] at hpass
    cases hpass
    have hrest := hnodup.of_append_right
    have hfree := hfree.right hfetch
    rw [← requests_rendered (shownBy options reply) hf] at hrest hfree ⊢
    exact ih hfamilies (hvalid.rendered hplain) (lines_rendered_ne_nil hne) hrest hfree

end Outline

/-- **An update ends as its fetches do**: if the document is laminar and the replies are
    marker-free, it fetches the requested regions and can fail only there. -/
theorem ending_computeUpdate (source : Source σ) (options : UpdateOptions)
    (hscan : scanAll document = .ok regions) (hlaminar : Laminar regions)
    (hfree : source.FreeReplies options (requested regions) s) :
    (computeUpdate source options document).ending s =
      ((requested regions).mapM (fetch source options)).ending s := by
  have hnodup : (requested regions).Nodup := (nodup_of_scanAll hscan).filter _
  have hrun : computeUpdate source options document =
      (updateFamilies source options Family.all document >>= fun result =>
        pure { previous := document, updated := result.1, regions := result.2 }) := by
    rw [computeUpdate, hscan]
    rfl
  rw [hrun, Run.ending_bind_pure]
  obtain ⟨o, hvalid, hne, hlocated, rfl, rfl⟩ := Outline.exists_of_laminar hscan hlaminar
  rw [Outline.requested_eq_requests hvalid hlocated] at hnodup hfree ⊢
  exact Outline.ending_updateFamilies (by decide) hvalid hne hnodup hfree

/-! ## Disjoint regions -/

/-- Two regions out of pairwise disjoint ones are disjoint. -/
theorem disjoint_of_pairwise (h : regions.Pairwise fun r r' => r.span.Disjoint r'.span)
    {r r' : Region} (hr : r ∈ regions) (hr' : r' ∈ regions) (hne : r ≠ r') :
    r.span.Disjoint r'.span := by
  have hsymm : Std.Symm fun r r' : Region => r.span.Disjoint r'.span := ⟨fun _ _ h => Or.symm h⟩
  exact h.forall hr hr' hne

theorem laminar_of_disjoint (h : regions.Pairwise fun r r' => r.span.Disjoint r'.span) :
    Laminar regions := by
  constructor
  · apply h.imp
    intro r r' hdisjoint _
    exact hdisjoint
  · intro r hr r' hr' hne
    have hne' : r ≠ r' := fun heq => hne (congrArg Region.family heq)
    exact .inl (disjoint_of_pairwise h hr hr' hne')

/-- Every region of a document with disjoint regions is requested. -/
theorem requested_of_disjoint (hscan : scanAll document = .ok regions)
    (h : regions.Pairwise fun r r' => r.span.Disjoint r'.span) : requested regions = regions := by
  obtain ⟨o, hvalid, -, hlocated, -, rfl⟩ := Outline.exists_of_laminar hscan (laminar_of_disjoint h)
  apply List.filter_eq_self.2
  intro r hr
  rw [Bool.not_eq_true', ← Bool.not_eq_true, hidden_iff]
  rintro ⟨q, hq, hearlier, hwithin⟩
  have hlt := (hlocated.within r ((Outline.mem_flatMap_nodes hvalid).1 hr)).2.1
  -- a region is not inside one that is disjoint from it, for it is not empty
  have hne : r ≠ q := by
    rintro rfl
    exact r.family.not_mem_earlier hearlier
  have hdisjoint := disjoint_of_pairwise h hr hq hne
  obtain ⟨hstart, hstop⟩ := hwithin
  simp only [Span.Disjoint] at hdisjoint
  omega

/-! ## The log -/

/-- The regions are fetched up to the first for which it fails, and that is what is logged. -/
theorem mapM_fetch_logged (source : Source σ) (options : UpdateOptions) (regions : List Region)
    (s : σ) (log : List Request) :
    (∃ listings s', regions.mapM (fetch source options) s = (.ok listings, s') ∧
      regions.mapM (fetch source.logged options) (s, log) =
        (.ok listings, (s', log ++ regions.map (Region.request · options)))) ∨
    ∃ front r back listings t e s', regions = front ++ r :: back ∧
      front.mapM (fetch source options) s = (.ok listings, t) ∧
      fetch source options r t = (.error e, s') ∧
      regions.mapM (fetch source.logged options) (s, log) =
        (.error e, (s', log ++ (front ++ [r]).map (Region.request · options))) := by
  -- the first fetch fails, or the others are made with one more request in the log
  induction regions generalizing s log with
  | nil => exact .inl ⟨[], s, rfl, by rw [List.map_nil, List.append_nil]; rfl⟩
  | cons r regions ih =>
    have hlogged : fetch source.logged options r (s, log) =
        ((fetch source options r s).1,
          ((fetch source options r s).2, log ++ [r.request options])) :=
      rfl
    cases hfetch : fetch source options r s with
    | mk outcome t =>
      rw [hfetch] at hlogged
      cases outcome with
      | error e =>
        right
        refine ⟨[], r, regions, [], s, e, t, rfl, rfl, hfetch, ?_⟩
        rw [List.mapM_cons]
        exact Run.bind_eq_error_iff.2 (.inl hlogged)
      | ok listing =>
        rcases ih t (log ++ [r.request options]) with ⟨listings, s', hrest, hlog⟩ |
          ⟨front, q, back, listings, t', e, s', rfl, hfront, hq, hlog⟩
        · left
          refine ⟨listing :: listings, s', ?_, ?_⟩
          · exact Run.mapM_cons_eq_ok_iff.2 ⟨_, t, _, hfetch, hrest, rfl⟩
          · rw [List.append_assoc] at hlog
            exact Run.mapM_cons_eq_ok_iff.2 ⟨_, _, _, hlogged, hlog, rfl⟩
        · right
          refine ⟨r :: front, q, back, listing :: listings, t', e, s', rfl, ?_, hq, ?_⟩
          · exact Run.mapM_cons_eq_ok_iff.2 ⟨_, t, _, hfetch, hfront, rfl⟩
          · rw [List.append_assoc] at hlog
            rw [List.mapM_cons]
            refine Run.bind_eq_error_iff.2 (.inr ⟨listing, _, hlogged, ?_⟩)
            exact Run.bind_eq_error_iff.2 (.inl hlog)

theorem Source.FreeReplies.logged (h : source.FreeReplies options regions s) (log : List Request) :
    source.logged.FreeReplies options regions (s, log) := by
  intro front r back listings t listing t' hregions hfront hfetch
  -- without the log, the same fetches are made
  have hfetch' : ∀ q, Run.Mirrors Prod.fst (fetch source.logged options q)
      (fetch source options q) := fun _ _ => rfl
  have hmirror := Run.Mirrors.mapM hfetch' front (s, log)
  rw [hfront] at hmirror
  have hplain : fetch source options r t.1 = (.ok listing, t'.1) := by
    show ((fetch source.logged options r t).1, (fetch source.logged options r t).2.1) = _
    rw [hfetch]
  exact h front r back listings t.1 listing t'.1 hregions hmirror hplain

/-! ## Rows -/

theorem Marker.rows_of_classify {f : Family} {line : Text} {config : RegionConfig}
    (h : classify f line = .ok (.opening config)) :
    RegionConfig.minRows ≤ config.rows ∧ config.rows ≤ RegionConfig.maxRows := by
  rw [classify] at h
  split at h
  · split at h
    · cases h
    · next blob _ =>
      cases hblob : RegionConfig.ofBlob blob with
      | error fault =>
        rw [hblob] at h
        cases h
      | ok config' =>
        rw [hblob] at h
        cases h
        exact RegionConfig.rows_of_ofBlob hblob
  · split at h <;> cases h

/-- **Every request asks for a number of rows within the bounds**, in any document and with any
    replies. -/
theorem rows_of_logged (document : Text) (s : σ) :
    ∀ q ∈ (computeUpdate source.logged options document (s, [])).2.2,
      RegionConfig.minRows ≤ q.config.rows ∧ q.config.rows ≤ RegionConfig.maxRows := by
  -- one more request at a time, each of them for a region that a scan found
  have hsteps : Run.Takes (fun t t' : σ × List Request => ∃ q : Request,
      (RegionConfig.minRows ≤ q.config.rows ∧ q.config.rows ≤ RegionConfig.maxRows) ∧
        t'.2 = t.2 ++ [q]) (computeUpdate source.logged options document) := by
    refine takes_computeUpdate_of_fetch (fun f working regions hscan r hr t => .single ?_) document
    exact ⟨r.request options, Marker.rows_of_classify (isShaped_of_scan hscan r hr).opens, rfl⟩
  have hrun := hsteps (s, [])
  generalize (computeUpdate source.logged options document (s, [])).2 = t at hrun
  induction hrun with
  | refl => simp
  | tail _ hstep ih =>
    obtain ⟨q, hq, hlog⟩ := hstep
    rw [hlog]
    exact List.forall_mem_append.2 ⟨ih, List.forall_mem_singleton.2 hq⟩

/-! ## What is requested -/

/-- **The requests are fixed by the document**.

    * A log of the requests does not change an update.
    * An update of a document that is refused makes no request, and fails with the error of the
      scan.
    * If the spans of the regions are pairwise disjoint and the replies are marker-free, then the
      update fetches the regions in their order. Either every fetch succeeds, and then so does the
      update; or the first fetch that fails is the last that is made, and the update fails with its
      error. The request for a region is for its family and its configuration, for the user.
    * Whatever is requested, between one and fifty rows are asked for. -/
theorem requests_fixed {σ : Type} (source : Source σ) (options : UpdateOptions) (document : Text)
    (s : σ) :
    (∀ log, computeUpdate source options document s =
      ((computeUpdate source.logged options document (s, log)).1,
        (computeUpdate source.logged options document (s, log)).2.1)) ∧
    (∀ e, scanAll document = .error e →
      computeUpdate source.logged options document (s, []) = (.error e, (s, []))) ∧
    (∀ regions, scanAll document = .ok regions →
      (regions.Pairwise fun r r' => r.span.Disjoint r'.span) →
      source.FreeReplies options regions s →
      (∃ listings s' u, regions.mapM (fetch source options) s = (.ok listings, s') ∧
        computeUpdate source.logged options document (s, []) = (.ok u, (s', regions.map fun r =>
          { family := r.family, user := options.user, config := r.config }))) ∨
      ∃ front r back listings t e s', regions = front ++ r :: back ∧
        front.mapM (fetch source options) s = (.ok listings, t) ∧
        fetch source options r t = (.error e, s') ∧
        computeUpdate source.logged options document (s, []) =
          (.error e, (s', (front ++ [r]).map fun r =>
            { family := r.family, user := options.user, config := r.config }))) ∧
    ∀ q ∈ (computeUpdate source.logged options document (s, [])).2.2,
      1 ≤ q.config.rows ∧ q.config.rows ≤ 50 := by
  refine ⟨source.computeUpdate_logged options document s, ?_, ?_, rows_of_logged document s⟩
  · intro e hscan
    rw [computeUpdate, hscan]
    rfl
  · intro regions hscan hdisjoint hfree
    -- with the log at its side the source still ends the update as the fetches end
    have hending := ending_computeUpdate source.logged options (s := (s, [])) hscan
      (laminar_of_disjoint hdisjoint)
    rw [requested_of_disjoint hscan hdisjoint] at hending
    have hending := hending (hfree.logged [])
    rcases mapM_fetch_logged source options regions s [] with
      ⟨listings, s', hfetch, hlogged⟩ |
      ⟨front, r, back, listings, t, e, s', hregions, hfront, hr, hlogged⟩
    · left
      rw [Run.ending_of_ok hlogged] at hending
      obtain ⟨u, hu⟩ := Run.exists_of_ending hending
      exact ⟨listings, s', u, hfetch, hu⟩
    · right
      rw [Run.ending_of_error hlogged] at hending
      exact ⟨front, r, back, listings, t, e, s', hregions, hfront, hr,
        Run.eq_error_of_ending hending⟩

theorem Sample.markerFree_steadyBut {σ : Type} (failing : Family) :
    (steadyBut failing profile : Source σ).MarkerFree Sample.options := by
  intro r s listing s' hfetch
  rw [fetch, steadyBut] at hfetch
  split at hfetch
  · cases hfetch
  · exact markerFree_profile r s listing s' hfetch

/-- The update of the profile document stops at the family that is not served; the update of an end
    marker alone does not start. -/
theorem requests_fixed_profile :
    (∃ regions front r back, scanAll Sample.profileDocument = .ok regions ∧
      regions.length = 3 ∧ regions = front ++ r :: back ∧ r.family = .recent ∧
      computeUpdate (Sample.steadyBut .recent Sample.profile).logged Sample.options
        Sample.profileDocument ((), []) =
          (.error (Sample.unavailable .recent), ((), (front ++ [r]).map fun r =>
            { family := r.family, user := Sample.options.user, config := r.config }))) ∧
    computeUpdate (Sample.steadyBut .recent Sample.profile).logged Sample.options
      "<!--END_LASTFM_TRACKS-->" ((), []) =
        (.error (.endWithoutStart "<!--END_LASTFM_TRACKS-->"), ((), [])) := by
  constructor
  · obtain ⟨regions, hscan, h⟩ : ∃ regions, scanAll Sample.profileDocument = .ok regions ∧
        decide ((regions.Pairwise fun r r' => r.span.Disjoint r'.span) ∧ regions.length = 3 ∧
          (regions.mapM (fetch (Sample.steadyBut .recent Sample.profile) Sample.options)
            ()).1.toOption = none) = true := exists_ok_of_any (by decide +kernel)
    obtain ⟨hdisjoint, hlength, hfails⟩ := of_decide_eq_true h
    rcases (requests_fixed (Sample.steadyBut .recent Sample.profile) Sample.options
        Sample.profileDocument ()).2.2.1 regions hscan hdisjoint
        (.of_markerFree (Sample.markerFree_steadyBut .recent)) with
      ⟨listings, s', u, hfetch, -⟩ | ⟨front, r, back, listings, t, e, s', hregions, -, hr, hrun⟩
    · rw [hfetch] at hfails
      cases hfails
    · refine ⟨regions, front, r, back, hscan, hlength, hregions, ?_⟩
      rw [fetch, Sample.steadyBut] at hr
      split at hr
      · next hfamily =>
        obtain rfl := Except.error.inj (congrArg Prod.fst hr)
        rw [hrun]
        have hrequest : r.family = .recent := hfamily
        exact ⟨hrequest, by rw [← hrequest]; rfl⟩
      · cases hr
  · exact (requests_fixed _ _ _ _).2.1 _ (by decide +kernel)

end ListeningCharts
