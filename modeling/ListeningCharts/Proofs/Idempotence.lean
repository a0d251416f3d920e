import ListeningCharts.Proofs.Equation
import ListeningCharts.Proofs.Files

/-! # A second update

    An update leaves an outline in which every region shows what was rendered for it. If the source
    gives the same replies again, rendering it anew changes nothing.

    * **Settled** outlines are left as they are by every pass (`Outline.rendered_settled`), and every
      report on a region says so (`Outline.changed_eq_false`).
    * **A run on a laminar document** that succeeds once succeeds from every state, with the same
      text (`computeUpdate_repeats`).
    * In a store, the second update finds the text that the first one left, and does not write
      (`update_idempotent`).
-/

namespace ListeningCharts

/-! ## Settled outlines -/

namespace Outline

variable {f : Family} {offset : Nat} {shown : Region → List Text}

theorem rendered_settled (o : Outline) :
    (o.settled shown).rendered f shown = o.settled shown := by
  induction o with
  | nil => rfl
  | line text rest ih => rw [settled, rendered, ih]
  | region r body rest _ ihRest => rw [settled, rendered, rendered_ofLines, ite_self, ihRest]

theorem settled_settled (o : Outline) : (o.settled shown).settled shown = o.settled shown := by
  induction o with
  | nil => rfl
  | line text rest ih => rw [settled, settled, ih]
  | region r body rest _ ihRest => rw [settled, settled, ihRest]

/-- In a settled outline a scan finds each region with the lines that it shows. -/
theorem visits_settled (o : Outline) :
    ∀ visit ∈ (o.settled shown).visits f offset,
      ∃ start, visit.2 = visit.1.found (shown visit.1) start := by
  induction o generalizing offset with
  | nil => simp [settled, visits]
  | line text rest ih => exact ih
  | region r body rest _ ihRest =>
    intro visit hvisit
    rw [settled] at hvisit
    rcases visits_cases hvisit with rfl | hvisit | hvisit
    · rw [lines_ofLines]
      exact ⟨offset, rfl⟩
    · rw [visits_ofLines] at hvisit
      cases hvisit
    · exact ihRest visit hvisit

/-- What is found in a settled outline is at the top of the outline. -/
theorem mem_roots_of_settled {done : List Family} {o : Outline} :
    ∀ r ∈ (o.settled shown).nodes done f, r ∈ o.roots := by
  induction o with
  | nil => simp [settled, nodes]
  | line text rest ih => exact ih
  | region r body rest _ ihRest =>
    intro s hs
    rw [settled] at hs
    rcases nodes_cases hs with ⟨rfl, -⟩ | hs | hs
    · exact List.mem_cons_self
    · rw [nodes_ofLines] at hs
      cases hs
    · exact List.mem_cons_of_mem _ (ihRest s hs)

theorem mem_roots_of_requests {families done : List Family} {o : Outline} :
    ∀ r ∈ (o.settled shown).requests done families, r ∈ o.roots := by
  induction families generalizing done with
  | nil => simp [requests]
  | cons f families ih => exact List.forall_mem_append.2 ⟨mem_roots_of_settled, ih⟩

/-- A region at the top is found whatever is done. -/
theorem mem_nodes_of_roots {o : Outline} {r : Region} (hr : r ∈ o.roots) (done : List Family) :
    r ∈ o.nodes done r.family := by
  induction o with
  | nil => cases hr
  | line text rest ih => exact ih hr
  | region first body rest _ ihRest =>
    rw [nodes, List.mem_append]
    rcases List.mem_cons.1 hr with rfl | hr
    · exact .inl (by simp)
    · exact .inr (ihRest hr)

/-- A fetch is made for each region at the top. -/
theorem mem_requests_of_roots {families : List Family} {o : Outline} {r : Region} (hr : r ∈ o.roots)
    (hfamily : r.family ∈ families) (done : List Family) : r ∈ o.requests done families := by
  induction families generalizing done with
  | nil => cases hfamily
  | cons f families ih =>
    rw [requests, List.mem_append]
    rcases List.mem_cons.1 hfamily with rfl | hfamily
    · exact .inl (mem_nodes_of_roots hr done)
    · exact .inr (ih hfamily _)

/-- **No report on a settled outline tells of a change**. -/
theorem changed_eq_false (options : UpdateOptions) (reply : Region → Listing)
    (families : List Family) (o : Outline) :
    ∀ report ∈ reportsAll options reply families (o.settled (shownBy options reply)),
      report.changed = false := by
  induction families with
  | nil => simp [reportsAll]
  | cons f families ih =>
    rw [reportsAll, rendered_settled]
    refine List.forall_mem_append.2 ⟨fun report hreport => ?_, ih⟩
    obtain ⟨visit, hvisit, rfl⟩ := List.mem_map.1 hreport
    obtain ⟨start, hfound⟩ := visits_settled o visit hvisit
    show (visit.2.render (reply visit.1) options != visit.2.fullText) = false
    rw [hfound, Region.render_eq]
    exact bne_self_eq_false _

end Outline

/-! ## Sources that repeat their replies -/

section Repeats

variable {σ : Type} {source : Source σ} {options : UpdateOptions} {s s' : σ}

/-- The source always gives the same reply to the same request, whatever its state. -/
def Source.Repeats (source : Source σ) (reply : Request → Except Error Listing) : Prop :=
  ∀ (q : Request) (s : σ), (source q s).1 = reply q

variable {reply : Request → Except Error Listing}

/-- The records for a region, none if there is no reply. -/
def recordsFor (reply : Request → Except Error Listing) (options : UpdateOptions) (r : Region) :
    Listing :=
  match reply (r.request options) with
  | .ok listing => listing
  | .error _ => .tracks []

theorem Source.Repeats.fetch_eq (h : source.Repeats reply) {r : Region} {listing : Listing}
    (hfetch : fetch source options r s = (.ok listing, s')) :
    reply (r.request options) = .ok listing := by
  rw [← h (r.request options) s]
  exact congrArg Prod.fst hfetch

theorem Source.Repeats.eq_recordsFor (h : source.Repeats reply) (r : Region) (t : σ)
    (listing : Listing) (t' : σ) (hfetch : fetch source options r t = (.ok listing, t')) :
    listing = recordsFor reply options r := by
  rw [recordsFor, h.fetch_eq hfetch]

/-- A fetch that succeeded once succeeds from every state. -/
theorem Source.Repeats.exists_fetch (h : source.Repeats reply) {r : Region} {listing : Listing}
    (hfetch : fetch source options r s = (.ok listing, s')) (t : σ) :
    ∃ t', fetch source options r t = (.ok listing, t') := by
  have hreply := h (r.request options) t
  rw [h.fetch_eq hfetch] at hreply
  exact ⟨(fetch source options r t).2, Prod.ext hreply rfl⟩

/-- Fetches that succeeded once succeed from every state, and so do some of them. -/
theorem Source.Repeats.exists_mapM (h : source.Repeats reply) {rs others : List Region}
    (hfetch : rs.mapM (fetch source options) s =
      (.ok (rs.map (recordsFor reply options)), s')) (hsub : ∀ r ∈ others, r ∈ rs) (t : σ) :
    ∃ t', others.mapM (fetch source options) t =
      (.ok (others.map (recordsFor reply options)), t') := by
  refine Run.exists_mapM_eq_ok (fun r hr t => ?_) t
  obtain ⟨t₁, t₂, hr⟩ := Outline.exists_fetch_of_mem hfetch r (hsub r hr)
  exact h.exists_fetch hr t

/-! ## The second run -/

variable {document : Text} {regions : List Region} {u : DocumentUpdate}

/-- What a run on a laminar document that succeeds tells of the outline. -/
theorem exists_outline_of_computeUpdate (hscan : scanAll document = .ok regions)
    (hlaminar : Laminar regions) (hrepeats : source.Repeats reply)
    (hfree : source.MarkerFree options)
    (h : computeUpdate source options document s = (.ok u, s')) :
    ∃ o : Outline, o.IsValid ∧ o.lines ≠ [] ∧ document = Text.joinLines o.lines ∧
      (o.requests [] Family.all).mapM (fetch source options) s =
        (.ok ((o.requests [] Family.all).map (recordsFor reply options)), s') ∧
      u.updated = Text.joinLines
        (o.settled (Outline.shownBy options (recordsFor reply options))).lines := by
  obtain ⟨o, hvalid, hne, -, rfl, -⟩ := Outline.exists_of_laminar hscan hlaminar
  obtain ⟨_, updated, updates, -, hrun, rfl⟩ := computeUpdate_eq_ok_iff.1 h
  have hall : Family.all.Nodup := by decide
  have hfetch := Outline.fetch_of_updateFamilies hall hfree hrepeats.eq_recordsFor hvalid hne hrun
  have hrun' := Outline.updateFamilies_of_fetch hall hvalid hne
    (Outline.isPlain_of_fetch hfree hfetch) hfetch
  -- the replies tell the run, so it is the one that was made
  rw [hrun', Outline.renderedAll_all] at hrun
  cases hrun
  exact ⟨o, hvalid, hne, rfl, hfetch, rfl⟩

/-- A run on a laminar document that succeeds once succeeds from every state, with the same text. -/
theorem computeUpdate_repeats (hscan : scanAll document = .ok regions)
    (hlaminar : Laminar regions) (hrepeats : source.Repeats reply)
    (hfree : source.MarkerFree options)
    (h : computeUpdate source options document s = (.ok u, s')) (t : σ) :
    ∃ v t', computeUpdate source options document t = (.ok v, t') ∧ v.updated = u.updated := by
  obtain ⟨o, hvalid, hne, rfl, hfetch, hupdated⟩ :=
    exists_outline_of_computeUpdate hscan hlaminar hrepeats hfree h
  obtain ⟨t', hfetch'⟩ := hrepeats.exists_mapM hfetch (fun _ hr => hr) t
  exact ⟨_, t', Outline.computeUpdate_of_fetch hvalid hne (Outline.isPlain_of_fetch hfree hfetch')
    hfetch', hupdated.symm⟩

/-- **A second run changes nothing**: on the text that a run left, a run succeeds from every state,
    with the same text and without a region that is changed. -/
theorem computeUpdate_again (hscan : scanAll document = .ok regions)
    (hlaminar : Laminar regions) (hrepeats : source.Repeats reply)
    (hfree : source.MarkerFree options)
    (h : computeUpdate source options document s = (.ok u, s')) (t : σ) :
    ∃ v t', computeUpdate source options u.updated t = (.ok v, t') ∧ v.updated = u.updated ∧
      v.isChanged = false ∧ v.changedCount = 0 := by
  obtain ⟨o, hvalid, hne, rfl, hfetch, hupdated⟩ :=
    exists_outline_of_computeUpdate hscan hlaminar hrepeats hfree h
  rw [hupdated]
  generalize hshown : Outline.shownBy options (recordsFor reply options) = shown
  have hplain := Outline.isPlain_of_fetch hfree hfetch
  -- what the first run left is the text of an outline again, so the same lemmas apply to it
  have hvalid' : (o.settled shown).IsValid := by
    refine hvalid.settled fun r hr => ?_
    rw [← hshown]
    exact hplain r (Outline.mem_requests_of_roots hr r.family.mem_all [])
  have hne' : (o.settled shown).lines ≠ [] := Outline.lines_settled_ne_nil hne
  -- every region that is fetched again was fetched by the first run
  have hsub : ∀ r ∈ (o.settled shown).requests [] Family.all, r ∈ o.requests [] Family.all :=
    fun r hr => Outline.mem_requests_of_roots (Outline.mem_roots_of_requests r hr)
      r.family.mem_all _
  obtain ⟨t', hfetch'⟩ := hrepeats.exists_mapM hfetch hsub t
  have hrun := Outline.computeUpdate_of_fetch hvalid' hne'
    (Outline.isPlain_of_fetch hfree hfetch') hfetch'
  rw [hshown, Outline.settled_settled] at hrun
  refine ⟨_, t', hrun, rfl, bne_self_eq_false _, ?_⟩
  rw [DocumentUpdate.changedCount, List.countP_eq_zero]
  intro report hreport
  rw [← hshown] at hreport
  simp [Outline.changed_eq_false options _ Family.all o report hreport]

end Repeats

/-! ## The second update in a store -/

section Stores

variable {σ τ : Type} {store : DocumentStore τ} {source : Source (τ × σ)}
  {reply : Request → Except Error Listing} {options : UpdateOptions} {locator : Text}
  {stored : StoredDocument} {regions : List Region} {report : UpdateReport} {t t₁ : τ} {s s₁ : σ}

/-- An update that is not to be written leaves the store as it is. -/
theorem exists_updateDocument_of_not_written (hsource : ∀ q, Run.Keeps Prod.fst (source q))
    (hread : store.read locator t = .ok stored) {u : DocumentUpdate} {state : τ × σ}
    (hrun : computeUpdate source options stored.content (t, s) = (.ok u, state))
    (hwritten : u.isWritten options = false) :
    ∃ s', updateDocument store source options locator (t, s) =
      (.ok { update := u, written := false }, (t, s')) := by
  have hkeeps : (computeUpdate source options stored.content (t, s)).2.1 = t :=
    keeps_computeUpdate hsource stored.content (t, s)
  obtain ⟨t', s'⟩ := state
  rw [hrun] at hkeeps
  obtain rfl : t' = t := hkeeps
  exact ⟨s', updateDocument_of_not_written hread hrun hwritten⟩

/-- **A second update in a store never writes**, whether the first one wrote or not. -/
theorem updateDocument_again (hstore : store.ReadsBack locator)
    (hsource : ∀ q, Run.Keeps Prod.fst (source q)) (hrepeats : source.Repeats reply)
    (hfree : source.MarkerFree options) (hread : store.read locator t = .ok stored)
    (hscan : scanAll stored.content = .ok regions) (hlaminar : Laminar regions)
    (h : updateDocument store source options locator (t, s) = (.ok report, (t₁, s₁))) (s₂ : σ) :
    ∃ report' s₃, updateDocument store source options locator (t₁, s₂) =
        (.ok report', (t₁, s₃)) ∧
      report'.written = false ∧ report'.update.updated = report.update.updated := by
  obtain ⟨stored', u, t', hread', hcompute, hstate, rfl, hend⟩ := updateDocument_eq_ok h
  obtain rfl := Except.ok.inj (hread.symm.trans hread')
  have hrun : computeUpdate source options stored.content (t, s) =
      (.ok u, (computeUpdate source options stored.content (t, s)).2) := Prod.ext hcompute rfl
  cases hwritten : u.isWritten options with
  | true =>
    rw [hwritten, if_pos rfl] at hend
    obtain ⟨version, hread₁⟩ := hstore _ _ _ _ hend
    obtain ⟨v, state, hagain, hupdated, hchanged, -⟩ :=
      computeUpdate_again hscan hlaminar hrepeats hfree hrun (t₁, s₂)
    have hwritten' : v.isWritten options = false := by rw [DocumentUpdate.isWritten, hchanged]; rfl
    obtain ⟨s₃, hsecond⟩ :=
      exists_updateDocument_of_not_written hsource hread₁ hagain hwritten'
    exact ⟨_, s₃, hsecond, rfl, hupdated⟩
  | false =>
    rw [hwritten, if_neg Bool.false_ne_true, ← hstate, keeps_computeUpdate hsource] at hend
    obtain rfl : t₁ = t := hend
    obtain ⟨v, state, hagain, hupdated⟩ :=
      computeUpdate_repeats hscan hlaminar hrepeats hfree hrun (t₁, s₂)
    -- the second run starts and ends with the same texts as the first one
    have hwritten' : v.isWritten options = false := by
      obtain ⟨_, _, _, -, -, rfl⟩ := computeUpdate_eq_ok_iff.1 hrun
      obtain ⟨_, _, _, -, -, rfl⟩ := computeUpdate_eq_ok_iff.1 hagain
      rw [← hwritten, DocumentUpdate.isWritten, DocumentUpdate.isWritten, DocumentUpdate.isChanged,
        DocumentUpdate.isChanged, hupdated]
    obtain ⟨s₃, hsecond⟩ := exists_updateDocument_of_not_written hsource hread hagain hwritten'
    exact ⟨_, s₃, hsecond, rfl, hupdated⟩

end Stores

/-- **Idempotence**: if a run on a laminar document succeeds, with a source that always gives the
    same marker-free reply to the same request, then a run on what it left succeeds and changes
    nothing; and a second update in a store that reads back, such as the documents in memory and in
    files, does not write. -/
theorem update_idempotent :
    (∀ {σ : Type} (source : Source σ) (reply : Request → Except Error Listing)
        (options : UpdateOptions) (document : Text) (regions : List Region) (u : DocumentUpdate)
        (s s' : σ),
      source.Repeats reply → source.MarkerFree options → scanAll document = .ok regions →
      Laminar regions → computeUpdate source options document s = (.ok u, s') →
      ∀ t, ∃ v t', computeUpdate source options u.updated t = (.ok v, t') ∧
        v.updated = u.updated ∧ v.isChanged = false ∧ v.changedCount = 0) ∧
    (∀ {σ τ : Type} (store : DocumentStore τ) (source : Source (τ × σ))
        (reply : Request → Except Error Listing) (options : UpdateOptions) (locator : Text)
        (stored : StoredDocument) (regions : List Region) (report : UpdateReport) (t t₁ : τ)
        (s s₁ : σ),
      store.ReadsBack locator → (∀ q, Run.Keeps Prod.fst (source q)) → source.Repeats reply →
      source.MarkerFree options → store.read locator t = .ok stored →
      scanAll stored.content = .ok regions → Laminar regions →
      updateDocument store source options locator (t, s) = (.ok report, (t₁, s₁)) →
      ∀ s₂, ∃ report' s₃, updateDocument store source options locator (t₁, s₂) =
          (.ok report', (t₁, s₃)) ∧
        report'.written = false ∧ report'.update.updated = report.update.updated) ∧
    (∀ locator, MemoryDocument.store.ReadsBack locator) ∧
    ∀ (files : FileStore) (locator : Text), files.store.ReadsBack locator := by
  refine ⟨?_, ?_, MemoryDocument.store_readsBack, FileStore.store_readsBack⟩
  · intro σ source reply options document regions u s s' hrepeats hfree hscan hlaminar h t
    exact computeUpdate_again hscan hlaminar hrepeats hfree h t
  · intro σ τ store source reply options locator stored regions report t t₁ s s₁ hstore hsource
      hrepeats hfree hread hscan hlaminar h s₂
    exact updateDocument_again hstore hsource hrepeats hfree hread hscan hlaminar h s₂

/-- Two updates of a document with a region inside another one, by themselves and in memory. -/
theorem update_idempotent_nested :
    ∃ u, u.isChanged = true ∧
      computeUpdate (Sample.steady Sample.profile) Sample.options Sample.nestedDocument () =
        (.ok u, ()) ∧
      (∃ v t', computeUpdate (Sample.steady Sample.profile) Sample.options u.updated () =
        (.ok v, t') ∧ v.updated = u.updated ∧ v.isChanged = false ∧ v.changedCount = 0) ∧
      ∃ report t₁, updateDocument MemoryDocument.store (Sample.steady Sample.profile) Sample.options
          "README.md" ({ content := Sample.nestedDocument }, ()) = (.ok report, (t₁, ())) ∧
        report.written = true ∧
        ∃ report' s₃, updateDocument MemoryDocument.store (Sample.steady Sample.profile)
            Sample.options "README.md" (t₁, ()) = (.ok report', (t₁, s₃)) ∧
          report'.written = false ∧ report'.update.updated = report.update.updated := by
  obtain ⟨regions, hscan, hlaminar, -, -⟩ := Sample.exists_scanAll_nestedDocument
  have hkeeps : ∀ q, Run.Keeps Prod.fst
      ((Sample.steady Sample.profile : Source (MemoryDocument × Unit)) q) := fun _ _ => rfl
  obtain ⟨u, hrun, hchanged⟩ : ∃ u, computeUpdate (Sample.steady Sample.profile) Sample.options
      Sample.nestedDocument () = (.ok u, ()) ∧ u.isChanged = true :=
    Run.exists_eq_ok (by decide +kernel) (Subsingleton.elim _ _)
  obtain ⟨w, hcompute, hwritten⟩ : ∃ w, computeUpdate (Sample.steady Sample.profile)
      Sample.options Sample.nestedDocument
      (({ content := Sample.nestedDocument }, ()) : MemoryDocument × Unit) =
        (.ok w, ({ content := Sample.nestedDocument }, ())) ∧ w.isWritten Sample.options = true :=
    Run.exists_eq_ok (by decide +kernel) (by decide +kernel)
  have hread := MemoryDocument.read_eq { content := Sample.nestedDocument } "README.md"
  have hfirst := updateDocument_of_written hread hcompute hwritten (MemoryDocument.write_eq _ _ _)
  refine ⟨u, hchanged, hrun, ?_, _, _, hfirst, rfl, ?_⟩
  · exact update_idempotent.1 _ (fun q => .ok (Sample.profile q.family)) _ _ _ _ _ _
      (fun _ _ => rfl) Sample.markerFree_profile hscan hlaminar hrun ()
  · exact update_idempotent.2.1 _ _ (fun q => .ok (Sample.profile q.family)) _ _ _ _ _ _ _ _ _
      (update_idempotent.2.2.1 _) hkeeps (fun _ _ => rfl) Sample.markerFree_profile hread
      hscan hlaminar hfirst ()

end ListeningCharts
