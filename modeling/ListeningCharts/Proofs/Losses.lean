import ListeningCharts.Proofs.InPlace
import ListeningCharts.Proofs.Survival

/-! # Lost markers

    With marker-free replies a pass puts no marker of any family into a document, but it takes out
    those that lie inside the regions that it replaces. A marker that is lost never comes back, so an
    update that ends with the text it started from has lost none.

    * **One splice** leaves some of the markers, in their order. If it goes by the span of the region
      and leaves all of them, then there was none in the body (`content_of_markersOf_splice`).
    * **Passes** leave some of the markers too. If all are left in the end, then every pass found as
      many as there were in the document (`exists_between_of_updateFamilies`).
    * **What lies inside a region** is told from the markers alone, as far as markers go
      (`Region.IsNumber.markersOf_inside_eq`). So what a later pass finds holds of the document.
-/

namespace ListeningCharts

/-! ## Markers of every family -/

/-- The lines that open or close a region of some family. -/
def markersOf (lines : List Text) : List Text :=
  lines.filter fun line => Family.all.any fun f => decide (f.role line ≠ .content)

variable {f : Family} {line : Text} {lines lines' front back : List Text}

theorem mem_markersOf : line ∈ markersOf lines ↔ line ∈ lines ∧ ∃ f : Family, f.role line ≠ .content := by
  have hany : (∃ f ∈ Family.all, f.role line ≠ .content) ↔ ∃ f : Family, f.role line ≠ .content :=
    ⟨fun ⟨f, _, hf⟩ => ⟨f, hf⟩, fun ⟨f, hf⟩ => ⟨f, f.mem_all, hf⟩⟩
  rw [markersOf, List.mem_filter, List.any_eq_true]
  simpa only [decide_eq_true_eq] using and_congr_right fun _ => hany

@[simp] theorem markersOf_append : markersOf (front ++ back) = markersOf front ++ markersOf back :=
  List.filter_append ..

theorem markersOf_cons_of_marker (h : f.role line ≠ .content) :
    markersOf (line :: back) = line :: markersOf back :=
  List.filter_cons_of_pos (List.any_eq_true.2 ⟨f, f.mem_all, decide_eq_true h⟩)

theorem markersOf_eq_nil_iff :
    markersOf lines = [] ↔ ∀ l ∈ lines, ∀ f : Family, f.role l = .content := by
  rw [List.eq_nil_iff_forall_not_mem]
  constructor
  · intro h l hl f
    by_contra hrole
    exact h l (mem_markersOf.2 ⟨hl, f, hrole⟩)
  · intro h l hl
    obtain ⟨hl, f, hrole⟩ := mem_markersOf.1 hl
    exact hrole (h l hl f)

theorem markersOf_of_plain (h : ∀ l ∈ lines, IsPlain l) : markersOf lines = [] :=
  markersOf_eq_nil_iff.2 fun l hl => (h l hl).content

/-- The markers of a role are counted among the markers. -/
theorem count_markersOf {role : Role} (hrole : role ≠ .content) :
    f.count role (markersOf lines) = f.count role lines := by
  induction lines with
  | nil => rfl
  | cons line lines ih =>
    by_cases hmarker : ∃ g : Family, g.role line ≠ .content
    · obtain ⟨g, hg⟩ := hmarker
      rw [markersOf_cons_of_marker hg, Family.count_cons, Family.count_cons, ih]
    · have hcontent : ∀ g : Family, g.role line = .content := by simpa using hmarker
      have hnone : markersOf [line] = [] := markersOf_eq_nil_iff.2 (by simpa using hcontent)
      have hsplit : markersOf (line :: lines) = markersOf lines := by
        rw [← List.singleton_append, markersOf_append, hnone, List.nil_append]
      rw [hsplit, ih, Family.count_cons_of_ne (by rw [hcontent f]; exact hrole.symm)]

/-! ## One splice -/

section Splices

variable {r : Region} {document : Text} {new : List Text}

/-- A splice leaves some of the markers, in their order. -/
theorem markersOf_splice (document : Text) (hshape : r.IsShaped) (hnew : ∀ l ∈ new, IsPlain l) :
    (markersOf (r.splice document (Region.textOf r.startMarker new r.endMarker)).lines).Sublist
      (markersOf document.lines) := by
  rcases r.splice_cases document (Region.textOf r.startMarker new r.endMarker) with
    hsame | ⟨before, after, hdocument, hsplice⟩
  · rw [hsame]
  · obtain ⟨front, last, back, -, hlines, hlines'⟩ :=
      Region.exists_lines_around hshape before after hnew
    rw [hsplice, hdocument, hlines, hlines', markersOf_append, markersOf_append, markersOf_append,
      markersOf_append, markersOf_of_plain hnew, List.append_nil]
    exact (List.sublist_append_left _ _).append_right _

/-- If a splice goes by the span and leaves all markers, then there was none in the body. -/
theorem content_of_markersOf_splice (hshape : r.IsShaped) (hnew : ∀ l ∈ new, IsPlain l)
    (hplace : r.isInPlace document = true)
    (heq : markersOf (r.splice document (Region.textOf r.startMarker new r.endMarker)).lines =
      markersOf document.lines) : ∀ l ∈ r.bodyLines, ∀ g : Family, g.role l = .content := by
  obtain ⟨before, after, hdocument, hstart, hstop⟩ := Region.isInPlace_iff.1 hplace
  obtain ⟨front, last, back, -, hlines, hlines'⟩ :=
    Region.exists_lines_around hshape before after hnew
  rw [hdocument, Region.splice_of_eq_append hstart hstop, hlines, hlines', markersOf_append,
    markersOf_append, markersOf_append, markersOf_append, markersOf_of_plain hnew, List.append_nil,
    List.append_cancel_right_eq, List.self_eq_append_right] at heq
  exact markersOf_eq_nil_iff.1 heq

/-- What is put in the place of a region are its markers with plain lines between them. -/
def IsPlainRendering (entry : Region × Text) : Prop :=
  entry.1.IsShaped ∧ ∃ new, (∀ l ∈ new, IsPlain l) ∧
    entry.2 = Region.textOf entry.1.startMarker new entry.1.endMarker

variable {entries done rest : List (Region × Text)} {entry : Region × Text}

theorem splicedBy_append : splicedBy document (done ++ rest) = splicedBy (splicedBy document done) rest :=
  List.foldl_append ..

theorem markersOf_splicedBy (document : Text) (h : ∀ entry ∈ entries, IsPlainRendering entry) :
    (markersOf (splicedBy document entries).lines).Sublist (markersOf document.lines) := by
  induction entries generalizing document with
  | nil => exact List.Sublist.refl _
  | cons entry entries ih =>
    obtain ⟨⟨hshape, new, hnew, htext⟩, hentries⟩ := List.forall_mem_cons.1 h
    have hstep := markersOf_splice document hshape hnew
    rw [← htext] at hstep
    exact (ih _ hentries).trans hstep

/-- If splices leave all markers, then there was none in the body of a region that is in place when it
    is its turn. -/
theorem content_of_markersOf_splicedBy (h : ∀ entry ∈ entries, IsPlainRendering entry)
    (heq : markersOf (splicedBy document entries).lines = markersOf document.lines)
    (hentries : entries = done ++ entry :: rest)
    (hplace : entry.1.isInPlace (splicedBy document done) = true) :
    ∀ l ∈ entry.1.bodyLines, ∀ g : Family, g.role l = .content := by
  obtain ⟨hshape, new, hnew, htext⟩ := h entry (by simp [hentries])
  have hdone : (markersOf (splicedBy document done).lines).Sublist (markersOf document.lines) :=
    markersOf_splicedBy document fun e he => h e (by simp [hentries, he])
  have hrest : (markersOf document.lines).Sublist
      (markersOf (entry.1.splice (splicedBy document done) entry.2).lines) := by
    rw [← heq, hentries, splicedBy_append]
    apply markersOf_splicedBy (entry.1.splice (splicedBy document done) entry.2)
    intro e he
    exact h e (by simp [hentries, he])
  rw [htext] at hrest
  -- the markers in front of the splice and behind it are caught between those of the two ends
  have hstep := markersOf_splice (splicedBy document done) hshape hnew
  exact content_of_markersOf_splice hshape hnew hplace (hstep.antisymm (hdone.trans hrest))

end Splices

/-! ## Passes -/

section Passes

variable {σ : Type} {source : Source σ} {options : UpdateOptions} {working updated : Text}
  {regions : List Region} {listings : List Listing} {s s' : σ}

theorem isPlainRendering_of_mem_replacements (hscan : scan f working = .ok regions)
    (hfree : ∀ reply ∈ regions.zip listings, reply.1.MarkerFree reply.2 options) :
    ∀ entry ∈ replacements options regions listings, IsPlainRendering entry := by
  intro entry hentry
  obtain ⟨⟨r, listing⟩, hreply, rfl⟩ := exists_reply_of_mem hentry
  exact ⟨isShaped_of_scan hscan r (List.of_mem_zip hreply).1, r.shown listing options,
    (hfree _ hreply).isPlain, r.render_eq listing options⟩

/-- A pass leaves some of the markers, in their order. -/
theorem markersOf_updateFamily {updates : List RegionUpdate} (hfree : source.MarkerFree options)
    (h : updateFamily source options working f s = (.ok (updated, updates), s')) :
    (markersOf updated.lines).Sublist (markersOf working.lines) := by
  obtain ⟨regions, listings, hscan, hlistings, rfl, -⟩ := updateFamily_eq_ok_iff.1 h
  rw [spliceAll_eq_splicedBy]
  apply markersOf_splicedBy
  intro entry hentry
  exact isPlainRendering_of_mem_replacements hscan (hfree.replies hlistings) entry
    (mem_latestFirst.1 hentry)

/-- If a pass over regions apart from each other leaves all markers, then there is none in the
    bodies. -/
theorem content_of_markersOf_updateFamily {updates : List RegionUpdate}
    (hfree : source.MarkerFree options)
    (h : updateFamily source options working f s = (.ok (updated, updates), s'))
    (heq : markersOf updated.lines = markersOf working.lines) :
    ∃ regions, scan f working = .ok regions ∧
      ((regions.Pairwise fun r r' => r.span.Disjoint r'.span) →
        ∀ r ∈ regions, ∀ l ∈ r.bodyLines, ∀ g : Family, g.role l = .content) := by
  obtain ⟨regions, listings, hscan, hlistings, rfl, -⟩ := updateFamily_eq_ok_iff.1 h
  refine ⟨regions, hscan, fun hdisjoint r hr => ?_⟩
  have hmap : (replacements options regions listings).map Prod.fst = regions := by
    rw [replacements, ← List.map_uncurry_zip_eq_zipWith, List.map_map]
    exact List.map_fst_zip (Nat.le_of_eq (Run.forall₂_of_mapM hlistings).length_eq)
  have hmem : ∃ text, (r, text) ∈ latestFirst (replacements options regions listings) := by
    rw [← hmap] at hr
    obtain ⟨⟨_, text⟩, hentry, rfl⟩ := List.mem_map.1 hr
    exact ⟨text, mem_latestFirst.2 hentry⟩
  obtain ⟨text, hmem⟩ := hmem
  obtain ⟨done, rest, hentries⟩ := List.append_of_mem hmem
  have hplace := isInPlace_of_disjoint hscan hdisjoint hmap hentries
  rw [spliceAll_eq_splicedBy] at heq
  refine content_of_markersOf_splicedBy (fun entry hentry => ?_) heq hentries hplace
  exact isPlainRendering_of_mem_replacements hscan (hfree.replies hlistings) entry
    (mem_latestFirst.1 hentry)

/-- Passes leave some of the markers, in their order. -/
theorem markersOf_updateFamilies {families : List Family} {updates : List RegionUpdate}
    (hfree : source.MarkerFree options)
    (h : updateFamilies source options families working s = (.ok (updated, updates), s')) :
    (markersOf updated.lines).Sublist (markersOf working.lines) := by
  induction families generalizing working updates s with
  | nil =>
    obtain ⟨rfl, -, -⟩ := updateFamilies_nil_eq_ok_iff.1 h
    exact List.Sublist.refl _
  | cons g families ih =>
    obtain ⟨next, first, t, more, hfirst, hrest, -⟩ := updateFamilies_cons_eq_ok_iff.1 h
    exact (ih hrest).trans (markersOf_updateFamily hfree hfirst)

/-- **Passes that leave all markers** have found as many of them each time, and none in the bodies of
    regions apart from each other. -/
theorem exists_between_of_updateFamilies {families : List Family} {updates : List RegionUpdate}
    (hfree : source.MarkerFree options)
    (h : updateFamilies source options families working s = (.ok (updated, updates), s'))
    (heq : markersOf updated.lines = markersOf working.lines) :
    ∀ f ∈ families, ∃ between regions, markersOf between.lines = markersOf working.lines ∧
      scan f between = .ok regions ∧
      ((regions.Pairwise fun r r' => r.span.Disjoint r'.span) →
        ∀ r ∈ regions, ∀ l ∈ r.bodyLines, ∀ g : Family, g.role l = .content) := by
  induction families generalizing working updates s with
  | nil => simp
  | cons g families ih =>
    obtain ⟨next, first, t, more, hfirst, hrest, -⟩ := updateFamilies_cons_eq_ok_iff.1 h
    have hnext := markersOf_updateFamily hfree hfirst
    have hlast := markersOf_updateFamilies hfree hrest
    rw [heq] at hlast
    have hsame : markersOf next.lines = markersOf working.lines := hnext.antisymm hlast
    intro f hf
    rcases List.mem_cons.1 hf with rfl | hf
    · obtain ⟨regions, hscan, hbodies⟩ := content_of_markersOf_updateFamily hfree hfirst hsame
      exact ⟨working, regions, rfl, hscan, hbodies⟩
    · obtain ⟨between, regions, hbetween, hscan, hbodies⟩ :=
        ih hrest (heq.trans hsame.symm) f hf
      exact ⟨between, regions, hbetween.trans hsame, hscan, hbodies⟩

end Passes

/-! ## Inside a region -/

section Inside

variable {r r' : Region} {k : Nat} {inside front' inside' back' : List Text}

/-- The markers of a document around the markers of a region and between them. -/
theorem Region.IsNumber.markersOf_eq (h : r.IsNumber f lines k front inside back) :
    markersOf lines = markersOf front ++
        r.startMarker :: (markersOf inside ++ r.endMarker :: markersOf back) ∧
      f.count .opens (markersOf front) = k ∧
      f.count .closes (markersOf front ++ r.startMarker :: markersOf inside) = k := by
  have hstart : f.role r.startMarker ≠ .content := by simp [h.role_startMarker]
  have hend : f.role r.endMarker ≠ .content := by simp [h.closes]
  have hcloses := h.count_closes
  rw [← count_markersOf (by simp), markersOf_append, markersOf_cons_of_marker hstart] at hcloses
  refine ⟨?_, by rw [count_markersOf (by simp), h.count_opens], hcloses⟩
  rw [h.lines_eq, markersOf_append, markersOf_cons_of_marker hstart, markersOf_append,
    markersOf_cons_of_marker hend]

/-- **The markers inside a region are told from the markers of the document** and the number of the
    region. -/
theorem Region.IsNumber.markersOf_inside_eq (h : r.IsNumber f lines k front inside back)
    (h' : r'.IsNumber f lines' k front' inside' back')
    (heq : markersOf lines = markersOf lines') : markersOf inside = markersOf inside' := by
  obtain ⟨hlines, hopens, hcloses⟩ := h.markersOf_eq
  obtain ⟨hlines', hopens', hcloses'⟩ := h'.markersOf_eq
  rw [← heq] at hlines'
  obtain ⟨hfront, -, -⟩ := eq_of_count_eq hlines hlines' h.role_startMarker h'.role_startMarker
    (hopens.trans hopens'.symm)
  rw [← List.cons_append, ← List.append_assoc] at hlines hlines'
  obtain ⟨hupto, -, -⟩ := eq_of_count_eq hlines hlines' h.closes h'.closes
    (hcloses.trans hcloses'.symm)
  rw [hfront] at hupto
  exact (List.cons.inj (List.append_cancel_left hupto)).2

variable {document between : Text} {regions others : List Region}

/-- Documents with the same markers have as many regions of a family. -/
theorem exists_isNumber_of_markersOf_eq (h : scan f document = .ok regions)
    (h' : scan f between = .ok others) (heq : markersOf between.lines = markersOf document.lines)
    (hk : others[k]? = some r') : ∃ r front inside back, regions[k]? = some r ∧
      r.IsNumber f document.lines k front inside back := by
  have hlt : k < regions.length := by
    have hother := (List.getElem?_eq_some_iff.1 hk).1
    rwa [length_eq_count_opens h', ← count_markersOf (by simp), heq, count_markersOf (by simp),
      ← length_eq_count_opens h] at hother
  have hr := List.getElem?_eq_getElem hlt
  obtain ⟨front, inside, back, hnumber⟩ := isNumber_of_scan h hr
  exact ⟨_, front, inside, back, hr, hnumber⟩

/-- Between the markers of regions apart from each other there is no marker of their family, in any
    document with the same markers. -/
theorem content_of_disjoint (h : scan f document = .ok regions)
    (hdisjoint : regions.Pairwise fun r r' => r.span.Disjoint r'.span)
    (h' : scan f between = .ok others) (heq : markersOf between.lines = markersOf document.lines)
    (hk : others[k]? = some r') (hr' : r'.IsNumber f between.lines k front' inside' back') :
    ∀ l ∈ inside', f.role l = .content := by
  obtain ⟨r, front, inside, back, hr, hnumber⟩ := exists_isNumber_of_markersOf_eq h h' heq hk
  have hsymm : Std.Symm fun r s : Region => r.span.Disjoint s.span := ⟨fun _ _ => Or.symm⟩
  have halone : r.IsAlone regions := fun s hs hne =>
    hdisjoint.forall hs (List.mem_of_getElem? hr) hne
  have hcontent := (isAlone_iff h hr hnumber).1 halone
  intro l hl
  by_contra hrole
  have hmarker := mem_markersOf.2 ⟨hl, f, hrole⟩
  rw [hr'.markersOf_inside_eq hnumber heq] at hmarker
  exact hrole (hcontent l (mem_markersOf.1 hmarker).1)

/-- **If all markers are left by the pass over a family, then there was none inside its regions**,
    provided that these are apart from each other. -/
theorem content_inside_of_between (h : scan f document = .ok regions)
    (hdisjoint : regions.Pairwise fun r r' => r.span.Disjoint r'.span)
    (h' : scan f between = .ok others) (heq : markersOf between.lines = markersOf document.lines)
    (hbodies : (others.Pairwise fun r r' => r.span.Disjoint r'.span) →
      ∀ r ∈ others, ∀ l ∈ r.bodyLines, ∀ g : Family, g.role l = .content)
    (hk : regions[k]? = some r) (hr : r.IsNumber f document.lines k front inside back) :
    ∀ l ∈ inside, ∀ g : Family, g.role l = .content := by
  have hapart : others.Pairwise fun r r' => r.span.Disjoint r'.span := by
    apply List.pairwise_iff_getElem.2
    intro i j hi hj hij
    have hi' := List.getElem?_eq_getElem hi
    obtain ⟨_, _, _, hfirst⟩ := isNumber_of_scan h' hi'
    obtain ⟨_, _, _, hsecond⟩ := isNumber_of_scan h' (List.getElem?_eq_getElem hj)
    have hcontent := content_of_disjoint h hdisjoint h' heq hi' hfirst
    exact Or.symm (hfirst.disjoint hsecond hcontent (by omega))
  obtain ⟨r', front', inside', back', hk', hr'⟩ :=
    exists_isNumber_of_markersOf_eq h' h heq.symm hk
  have hcontent := content_of_disjoint h hdisjoint h' heq hk' hr'
  have hbody := hbodies hapart r' (List.mem_of_getElem? hk')
  rw [hr'.bodyLines_eq hcontent, ← markersOf_eq_nil_iff, hr'.markersOf_inside_eq hr heq] at hbody
  exact markersOf_eq_nil_iff.1 hbody

end Inside

/-! ## Regions of different families -/

namespace Region.IsNumber

variable {g : Family} {r r' : Region} {j k : Nat} {inside front' inside' back' : List Text}

/-- A region that is opened behind the start marker of a region of another family is opened behind its
    end marker, if there are no markers between. -/
theorem stop_le_start (hfg : f ≠ g) (hr : r.IsNumber f lines j front inside back)
    (hr' : r'.IsNumber g lines k front' inside' back')
    (hinside : ∀ l ∈ inside, ∀ e : Family, e.role l = .content) {mid rest : List Text}
    (hfront : front' = front ++ r.startMarker :: mid)
    (hrest : inside ++ r.endMarker :: back = mid ++ r'.startMarker :: rest) :
    r.span.stop ≤ r'.span.start := by
  have hopens := hr'.role_startMarker
  rcases append_cons_cases hrest with ⟨more, rfl, -⟩ | ⟨-, heq, -⟩ | ⟨more, hmore, -⟩
  · rw [hr.stop_eq, hr'.start_eq, hfront]
    simp only [Text.byteLength_unlines_append, Text.byteLength_unlines_cons]
    omega
  · have hcontent : g.role r.endMarker = .content :=
      Family.role_of_ne (by simp [hr.closes]) hfg.symm
    rw [← heq, hcontent] at hopens
    cases hopens
  · rw [hinside r'.startMarker (by simp [hmore]) g] at hopens
    cases hopens

/-- Regions of different families without markers between their own are disjoint. -/
theorem disjoint_of_ne (hfg : f ≠ g) (hr : r.IsNumber f lines j front inside back)
    (hr' : r'.IsNumber g lines k front' inside' back')
    (hinside : ∀ l ∈ inside, ∀ e : Family, e.role l = .content)
    (hinside' : ∀ l ∈ inside', ∀ e : Family, e.role l = .content) :
    r.span.Disjoint r'.span := by
  rcases append_cons_cases (hr.lines_eq.symm.trans hr'.lines_eq) with
    ⟨mid, hmid, hrest⟩ | ⟨-, heq, -⟩ | ⟨mid, hmid, hrest⟩
  · exact .inl (hr.stop_le_start hfg hr' hinside hmid hrest)
  · -- one line does not open regions of two families
    have hcontent : g.role r.startMarker = .content :=
      Family.role_of_ne (by simp [hr.role_startMarker]) hfg.symm
    rw [heq, hr'.role_startMarker] at hcontent
    cases hcontent
  · exact .inr (hr'.stop_le_start hfg.symm hr hinside' hmid hrest)

end Region.IsNumber

end ListeningCharts
