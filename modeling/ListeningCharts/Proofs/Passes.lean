import ListeningCharts.Proofs.Pass

/-! # Passes over an outline

    The families are rendered one after the other, each in the outline that the ones before it left. A
    region that is not inside another one keeps its place through all passes, and in the end shows what
    its own pass gave it (`Outline.renderedAll_all`); what was inside it is gone.

    * A later pass does not find the regions that an earlier one replaced, so the fetches of all
      passes can be told from the outline in front of the first (`Outline.requests`).
    * The run of all passes is these fetches (`Outline.updateFamilies_of_fetch`).
-/

namespace ListeningCharts

namespace Outline

variable {shown : Region → List Text} {f g : Family}

/-! ## The last outline -/

/-- The outline in which several families are rendered, one after the other. -/
def renderedAll (families : List Family) (shown : Region → List Text) (o : Outline) : Outline :=
  families.foldl (fun o f => o.rendered f shown) o

/-- The outline in which every region that is not inside another one shows its lines. -/
def settled (shown : Region → List Text) : Outline → Outline
  | nil => nil
  | line text rest => line text (rest.settled shown)
  | region r _ rest => region r (ofLines (shown r)) (rest.settled shown)

theorem rendered_ofLines (texts : List Text) : (ofLines texts).rendered f shown = ofLines texts := by
  induction texts with
  | nil => rfl
  | cons text texts ih => rw [ofLines, rendered, ih]

theorem renderedAll_ofLines (families : List Family) (texts : List Text) :
    (ofLines texts).renderedAll families shown = ofLines texts := by
  induction families with
  | nil => rfl
  | cons f families ih => rw [renderedAll, List.foldl_cons, rendered_ofLines]; exact ih

theorem renderedAll_nil (families : List Family) : nil.renderedAll families shown = nil :=
  renderedAll_ofLines families []

theorem renderedAll_line (families : List Family) (text : Text) (rest : Outline) :
    (line text rest).renderedAll families shown = line text (rest.renderedAll families shown) := by
  induction families generalizing rest with
  | nil => rfl
  | cons f families ih =>
    rw [renderedAll, List.foldl_cons, rendered]
    exact ih _

/-- A region shows new lines from the pass of its family on. -/
theorem renderedAll_region (families : List Family) (r : Region) (body rest : Outline) :
    (region r body rest).renderedAll families shown =
      region r (if r.family ∈ families then ofLines (shown r) else body.renderedAll families shown)
        (rest.renderedAll families shown) := by
  induction families generalizing body rest with
  | nil => rfl
  | cons f families ih =>
    have hstep : (region r body rest).renderedAll (f :: families) shown =
        (region r (if r.family = f then ofLines (shown r) else body.rendered f shown)
          (rest.rendered f shown)).renderedAll families shown := rfl
    rw [hstep, ih]
    -- once its family is rendered, there is no region left in its body
    by_cases hf : r.family = f
    · rw [if_pos hf, renderedAll_ofLines, ite_self, if_pos (by simp [hf])]
      rfl
    · rw [if_neg hf]
      simp only [List.mem_cons, hf, false_or]
      rfl

/-- **All passes settle an outline**. -/
theorem renderedAll_all (o : Outline) : o.renderedAll Family.all shown = o.settled shown := by
  induction o with
  | nil => exact renderedAll_nil _
  | line text rest ih => rw [renderedAll_line, ih, settled]
  | region r body rest _ ihRest =>
    rw [renderedAll_region, if_pos r.family.mem_all, ihRest, settled]

theorem lines_settled_ne_nil {o : Outline} (h : o.lines ≠ []) : (o.settled shown).lines ≠ [] := by
  cases o with
  | nil => exact absurd rfl h
  | line text rest => simp [settled, lines]
  | region r body rest => simp [settled, lines]

/-! ## Fetches -/

/-- The regions for which a fetch is made when several families are rendered, while others are done. -/
def requests (o : Outline) : (done families : List Family) → List Region
  | _, [] => []
  | done, f :: families => o.nodes done f ++ o.requests (done ++ [f]) families

theorem nodes_ofLines (done : List Family) (f : Family) (texts : List Text) :
    (ofLines texts).nodes done f = [] := by
  induction texts with
  | nil => rfl
  | cons text texts ih => exact ih

theorem visits_ofLines (texts : List Text) (offset : Nat) :
    (ofLines texts).visits f offset = [] := by
  have h := nodes_ofLines [] f texts
  rw [← map_fst_visits f offset] at h
  exact List.map_eq_nil_iff.1 h

/-- What was inside a region of a family that is done is not found any more. -/
theorem nodes_rendered (done : List Family) (o : Outline) :
    (o.rendered g shown).nodes done f = o.nodes (g :: done) f := by
  induction o with
  | nil => rfl
  | line text rest ih => exact ih
  | region r body rest ihBody ihRest =>
    rw [rendered, nodes, nodes, ihRest]
    congr 1
    by_cases hf : r.family = f
    · rw [if_pos hf, if_pos hf]
    · rw [if_neg hf, if_neg hf]
      by_cases hg : r.family = g
      · rw [if_pos hg, nodes_ofLines, ite_self, if_pos (by simp [hg])]
      · rw [if_neg hg, ihBody]
        simp only [List.mem_cons, hg, false_or]

theorem requests_rendered (shown : Region → List Text) {families : List Family} (hf : f ∉ families)
    (done : List Family) (o : Outline) :
    (o.rendered f shown).requests done families = o.requests (f :: done) families := by
  induction families generalizing done with
  | nil => rfl
  | cons g families ih =>
    have hf := fun hmem => hf (List.mem_cons_of_mem g hmem)
    rw [requests, requests, nodes_rendered, ih hf, List.cons_append]

section Run

variable {σ : Type} {source : Source σ} {options : UpdateOptions} {s s' : σ}

/-- The reports of several passes, by the replies to their fetches. -/
def reportsAll (options : UpdateOptions) (reply : Region → Listing) :
    List Family → Outline → List RegionUpdate
  | [], _ => []
  | f :: families, o => o.reports f options reply ++
      reportsAll options reply families (o.rendered f (shownBy options reply))

/-- **The passes are their fetches**: with these replies they end in the text of the outline with all
    families rendered. -/
theorem updateFamilies_of_fetch {families : List Family} (hnodup : families.Nodup)
    {reply : Region → Listing} {o : Outline} (hvalid : o.IsValid) (hne : o.lines ≠ [])
    (hplain : ∀ r ∈ o.requests [] families, ∀ l ∈ shownBy options reply r, IsPlain l)
    (hfetch : (o.requests [] families).mapM (fetch source options) s =
      (.ok ((o.requests [] families).map reply), s')) :
    updateFamilies source options families (Text.joinLines o.lines) s =
      (.ok (Text.joinLines (o.renderedAll families (shownBy options reply)).lines,
        reportsAll options reply families o), s') := by
  induction families generalizing o s with
  | nil =>
    obtain ⟨-, rfl⟩ := Run.mapM_nil_eq_ok_iff.1 hfetch
    rfl
  | cons f families ih =>
    obtain ⟨hf, hnodup⟩ := List.nodup_cons.1 hnodup
    rw [requests, List.nil_append] at hfetch hplain
    obtain ⟨hfirst, hothers⟩ := List.forall_mem_append.1 hplain
    obtain ⟨front, back, t, hfront, hback, hmap⟩ := Run.mapM_append_eq_ok_iff.1 hfetch
    rw [List.map_append] at hmap
    -- the replies are split where the regions of the first family end
    have hlength : ((o.nodes [] f).map reply).length = front.length := by
      rw [List.length_map]
      exact (Run.forall₂_of_mapM hfront).length_eq
    obtain ⟨rfl, rfl⟩ := List.append_inj hmap hlength
    rw [← requests_rendered (shownBy options reply) hf] at hback hothers
    have hmore := ih hnodup (hvalid.rendered hfirst) (lines_rendered_ne_nil hne) hothers hback
    exact updateFamilies_cons_eq_ok_iff.2
      ⟨_, _, t, _, updateFamily_of_fetch hvalid hne hfront, hmore, rfl⟩

/-- **An update of an outline is its fetches**: with these replies it settles the outline. -/
theorem computeUpdate_of_fetch {reply : Region → Listing} {o : Outline} (hvalid : o.IsValid)
    (hne : o.lines ≠ [])
    (hplain : ∀ r ∈ o.requests [] Family.all, ∀ l ∈ shownBy options reply r, IsPlain l)
    (hfetch : (o.requests [] Family.all).mapM (fetch source options) s =
      (.ok ((o.requests [] Family.all).map reply), s')) :
    computeUpdate source options (Text.joinLines o.lines) s =
      (.ok {
        previous := Text.joinLines o.lines
        updated := Text.joinLines (o.settled (shownBy options reply)).lines
        regions := reportsAll options reply Family.all o }, s') := by
  have hrun := updateFamilies_of_fetch (by decide) hvalid hne hplain hfetch
  rw [renderedAll_all] at hrun
  have hscan := scanAll_eq_ok_iff.2 ⟨_, scan_eq hvalid hne, rfl⟩
  exact computeUpdate_eq_ok_iff.2 ⟨_, _, _, hscan, hrun, rfl⟩

/-- The replies to fetches that succeeded. -/
theorem exists_fetch_of_mem {rs : List Region} {reply : Region → Listing}
    (h : rs.mapM (fetch source options) s = (.ok (rs.map reply), s')) :
    ∀ r ∈ rs, ∃ t t', fetch source options r t = (.ok (reply r), t') := by
  have hforall := Run.forall₂_of_mapM h
  rw [List.forall₂_map_right_iff] at hforall
  exact List.forall₂_same.1 hforall

theorem isPlain_of_fetch (hfree : source.MarkerFree options) {rs : List Region}
    {reply : Region → Listing}
    (h : rs.mapM (fetch source options) s = (.ok (rs.map reply), s')) :
    ∀ r ∈ rs, ∀ l ∈ shownBy options reply r, IsPlain l := by
  intro r hr
  obtain ⟨t, t', hfetch⟩ := exists_fetch_of_mem h r hr
  exact (hfree r t _ t' hfetch).isPlain

/-- Passes that succeed have made their fetches. The replies are named by the region, so a source has
    to reply to a region in one way. -/
theorem fetch_of_updateFamilies {families : List Family} (hnodup : families.Nodup)
    (hfree : source.MarkerFree options) {reply : Region → Listing}
    (hreply : ∀ r t listing t', fetch source options r t = (.ok listing, t') → listing = reply r)
    {o : Outline} (hvalid : o.IsValid) (hne : o.lines ≠ []) {result : Text × List RegionUpdate}
    (h : updateFamilies source options families (Text.joinLines o.lines) s = (.ok result, s')) :
    (o.requests [] families).mapM (fetch source options) s =
      (.ok ((o.requests [] families).map reply), s') := by
  induction families generalizing o s result with
  | nil =>
    obtain ⟨-, -, rfl⟩ := updateFamilies_nil_eq_ok_iff.1 h
    rfl
  | cons f families ih =>
    obtain ⟨hf, hnodup⟩ := List.nodup_cons.1 hnodup
    obtain ⟨next, first, t, more, hfirst, hrest, -⟩ := updateFamilies_cons_eq_ok_iff.1 h
    obtain ⟨listings, hlistings⟩ := exists_fetch_of_updateFamily hvalid hne hfirst
    have hmap := Run.eq_map_of_mapM hreply hlistings
    subst hmap
    have hplain := isPlain_of_fetch hfree hlistings
    -- the first pass leaves the text of an outline, so the other passes are runs over that one
    rw [updateFamily_of_fetch hvalid hne hlistings] at hfirst
    cases hfirst
    have hothers := ih hnodup (hvalid.rendered hplain) (lines_rendered_ne_nil hne) hrest
    rw [requests_rendered _ hf] at hothers
    rw [requests, List.map_append]
    exact Run.mapM_append_eq_ok_iff.2 ⟨_, _, t, hlistings, hothers, rfl⟩

end Run

end Outline

end ListeningCharts
