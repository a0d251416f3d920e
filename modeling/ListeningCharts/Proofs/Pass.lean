import ListeningCharts.Proofs.Laminar
import ListeningCharts.Proofs.Places
import ListeningCharts.Proofs.Runs

/-! # A pass over an outline

    The regions of one family in the text of an outline lie one behind the other. So they are spliced
    from the last to the first, each of them where its span says it is, and the text becomes that of
    the outline with the family rendered (`Outline.spliceAll_edits`).

    The run of such a pass is a fetch for each region of the family, and it ends in that text
    (`Outline.updateFamily_of_fetch`).
-/

namespace ListeningCharts

/-! ## Splices in place -/

/-- A region of a document made of lines gives way to other lines. -/
theorem Region.splice_joinLines {r : Region} {front mid new back : List Text} (hmid : mid ≠ [])
    (hnew : new ≠ []) (htext : r.fullText = Text.joinLines mid)
    (hstart : r.span.start = (Text.unlines front).byteLength)
    (hstop : r.span.stop = (Text.unlines front).byteLength + r.fullText.byteLength) :
    r.splice (Text.joinLines (front ++ mid ++ back)) (Text.joinLines new) =
      Text.joinLines (front ++ new ++ back) := by
  rw [Text.joinLines_append_append front hmid back, Text.joinLines_append_append front hnew back,
    ← htext]
  exact splice_of_eq_append hstart hstop _

/-- A region that a scan finds behind some lines gives way to new lines between its markers. -/
theorem Region.splice_found (r : Region) {front : List Text} (bodyLines new back : List Text)
    {offset : Nat} (hoffset : offset = (Text.unlines front).byteLength) :
    (r.found bodyLines offset).splice
        (Text.joinLines (front ++ (r.startMarker :: bodyLines ++ [r.endMarker]) ++ back))
        (textOf r.startMarker new r.endMarker) =
      Text.joinLines (front ++ (r.startMarker :: new ++ [r.endMarker]) ++ back) :=
  splice_joinLines (by simp) (by simp) rfl hoffset (by rw [← hoffset]; rfl)

theorem insertLatestFirst_of_lt {α : Type} {entry : Region × α} {entries : List (Region × α)}
    (h : ∀ other ∈ entries, entry.1.span.start < other.1.span.start) :
    insertLatestFirst entry entries = entries ++ [entry] := by
  induction entries with
  | nil => rfl
  | cons other rest ih =>
    obtain ⟨hother, hrest⟩ := List.forall_mem_cons.1 h
    rw [insertLatestFirst, if_neg (by omega), ih hrest, List.cons_append]

theorem latestFirst_of_ascending {α : Type} {entries : List (Region × α)}
    (h : entries.Pairwise fun a b => a.1.span.start < b.1.span.start) :
    latestFirst entries = entries.reverse := by
  induction entries with
  | nil => rfl
  | cons entry entries ih =>
    obtain ⟨hentry, hentries⟩ := List.pairwise_cons.1 h
    -- the entry starts before all the others, so it goes behind them
    show insertLatestFirst entry (latestFirst entries) = _
    rw [ih hentries, List.reverse_cons]
    exact insertLatestFirst_of_lt fun other hother => hentry other (List.mem_reverse.1 hother)

/-- Regions in ascending order are replaced from the last to the first. -/
theorem spliceAll_of_ascending {entries : List (Region × Text)}
    (h : entries.Pairwise fun a b => a.1.span.start < b.1.span.start) (document : Text) :
    spliceAll document entries =
      entries.foldr (fun entry working => entry.1.splice working entry.2) document := by
  rw [spliceAll, latestFirst_of_ascending h, List.foldl_reverse]

namespace Outline

variable {f : Family} {offset : Nat}

/-! ## The regions of a family -/

/-- A region that a scan finds lies in the lines of the outline. -/
theorem visits_within {o : Outline} : ∀ visit ∈ o.visits f offset,
    offset ≤ visit.2.span.start ∧ visit.2.span.stop < offset + o.size := by
  induction o generalizing offset with
  | nil => simp [visits]
  | line text rest ih =>
    intro visit hvisit
    have := ih visit hvisit
    rw [size_line]
    omega
  | region r body rest ihBody ihRest =>
    intro visit hvisit
    rw [size_region]
    rcases visits_cases hvisit with rfl | hvisit | hvisit
    · show offset ≤ offset ∧ offset + _ < _
      omega
    · have hin := ihBody visit hvisit
      have hsize := Region.byteLength_textOf r.startMarker body.lines r.endMarker
      rw [size] at hin
      omega
    · have := ihRest visit hvisit
      omega

/-- What a scan finds in an outline ends no earlier than it starts. -/
theorem visits_start_le {o : Outline} :
    ∀ visit ∈ o.visits f offset, visit.2.span.start ≤ visit.2.span.stop := by
  induction o generalizing offset with
  | nil => simp [visits]
  | line text rest ih => exact ih
  | region r body rest ihBody ihRest =>
    intro visit hvisit
    rcases visits_cases hvisit with rfl | hvisit | hvisit
    · exact Nat.le_add_right _ _
    · exact ihBody visit hvisit
    · exact ihRest visit hvisit

/-- The regions of a family are found one behind the other. -/
theorem visits_ascend {o : Outline} :
    (o.visits f offset).Pairwise fun a b => a.2.span.start < b.2.span.start := by
  induction o generalizing offset with
  | nil => exact .nil
  | line text rest ih => exact ih
  | region r body rest ihBody ihRest =>
    refine List.pairwise_append.2 ⟨?_, ihRest, fun a ha b hb => ?_⟩
    · split
      · exact List.pairwise_singleton _ _
      · exact ihBody
    · have hb := visits_within b hb
      have hstart : a.2.span.start <
          offset + (Region.textOf r.startMarker body.lines r.endMarker).byteLength + 1 := by
        split at ha
        · rw [List.mem_singleton.1 ha]
          show offset < _
          omega
        · have hin := visits_within a ha
          have hle := visits_start_le a ha
          have hsize := Region.byteLength_textOf r.startMarker body.lines r.endMarker
          rw [size] at hin
          omega
      omega

/-! ## All splices of a family -/

variable {shown : Region → List Text}

/-- The regions of a family as a scan finds them, each with what it shows. -/
def edits (f : Family) (shown : Region → List Text) (offset : Nat) (o : Outline) :
    List (Region × Text) :=
  (o.visits f offset).map fun visit =>
    (visit.2, Region.textOf visit.1.startMarker (shown visit.1) visit.1.endMarker)

/-- Replacing the regions of a family from the last to the first renders the outline, whatever lines
    stand in front of it and behind it. -/
theorem foldr_splice (o : Outline) (front back : List Text)
    (hoffset : offset = (Text.unlines front).byteLength) :
    (o.edits f shown offset).foldr (fun entry working => entry.1.splice working entry.2)
        (Text.joinLines (front ++ o.lines ++ back)) =
      Text.joinLines (front ++ (o.rendered f shown).lines ++ back) := by
  induction o generalizing front back offset with
  | nil => rfl
  | line text rest ih =>
    have hnext : offset + text.byteLength + 1 = (Text.unlines (front ++ [text])).byteLength := by
      rw [hoffset]
      simp
      omega
    have hrest := ih (front ++ [text]) back hnext
    have hedits : (line text rest).edits f shown offset =
        rest.edits f shown (offset + text.byteLength + 1) := rfl
    simpa [lines, rendered, hedits] using hrest
  | region r body rest ihBody ihRest =>
    -- the lines behind the region first, then the region itself or its body
    have hbehind : offset + (Region.textOf r.startMarker body.lines r.endMarker).byteLength + 1 =
        (Text.unlines (front ++ (r.startMarker :: body.lines ++ [r.endMarker]))).byteLength := by
      rw [hoffset, Region.byteLength_textOf]
      simp
      omega
    have hrest := ihRest (front ++ (r.startMarker :: body.lines ++ [r.endMarker])) back hbehind
    have hlines : ∀ behind : List Text, front ++ (r.startMarker :: body.lines ++ [r.endMarker]) ++
        behind ++ back = front ++ (r.startMarker :: body.lines ++ [r.endMarker]) ++
          (behind ++ back) := fun behind => by simp
    have hlines' : front ++ (region r body rest).lines ++ back =
        front ++ (r.startMarker :: body.lines ++ [r.endMarker]) ++ rest.lines ++ back := by
      simp [lines]
    rw [hlines', edits, visits, List.map_append, List.foldr_append]
    rw [edits] at hrest
    rw [hrest, hlines]
    by_cases hf : r.family = f
    · rw [if_pos hf, rendered, if_pos hf]
      simp only [List.map_cons, List.map_nil, List.foldr_cons, List.foldr_nil]
      rw [r.splice_found body.lines (shown r) _ hoffset]
      simp [lines]
    · rw [if_neg hf, rendered, if_neg hf]
      have hinside : offset + r.startMarker.byteLength + 1 =
          (Text.unlines (front ++ [r.startMarker])).byteLength := by
        rw [hoffset]
        simp
        omega
      have hbody := ihBody (front ++ [r.startMarker])
        (r.endMarker :: ((rest.rendered f shown).lines ++ back)) hinside
      rw [edits] at hbody
      simp only [List.append_assoc, List.cons_append, List.nil_append, lines] at hbody ⊢
      rw [hbody]

/-- **A pass renders its family**: replacing all its regions in the text of an outline gives the text
    of the outline with the family rendered. -/
theorem spliceAll_edits (o : Outline) (f : Family) (shown : Region → List Text) :
    spliceAll (Text.joinLines o.lines) (o.edits f shown 0) =
      Text.joinLines (o.rendered f shown).lines := by
  have hascend : (o.edits f shown 0).Pairwise fun a b => a.1.span.start < b.1.span.start :=
    List.pairwise_map.2 visits_ascend
  rw [spliceAll_of_ascending hascend]
  simpa using o.foldr_splice [] [] rfl

/-! ## The run of a pass -/

theorem map_fst_visits (f : Family) (offset : Nat) (o : Outline) :
    (o.visits f offset).map Prod.fst = o.nodes [] f := by
  induction o generalizing offset with
  | nil => rfl
  | line text rest ih => exact ih _
  | region r body rest ihBody ihRest =>
    rw [visits, nodes, List.map_append, ihRest]
    split
    · rfl
    · rw [ihBody, if_neg List.not_mem_nil]

/-- What a scan finds has the markers, the family and the configuration of the region. -/
theorem visits_found {o : Outline} :
    ∀ visit ∈ o.visits f offset, ∃ bodyLines start, visit.2 = visit.1.found bodyLines start := by
  induction o generalizing offset with
  | nil => simp [visits]
  | line text rest ih => exact ih
  | region r body rest ihBody ihRest =>
    intro visit hvisit
    rcases visits_cases hvisit with rfl | hvisit | hvisit
    · exact ⟨body.lines, offset, rfl⟩
    · exact ihBody visit hvisit
    · exact ihRest visit hvisit

section Run

variable {σ : Type} {source : Source σ} {options : UpdateOptions} {s s' : σ}

/-- The fetches of a pass are those for the regions of the outline. -/
theorem mapM_fetch_visits (source : Source σ) (options : UpdateOptions) (o : Outline) :
    ((o.visits f 0).map Prod.snd).mapM (fetch source options) =
      (o.nodes [] f).mapM (fetch source options) := by
  have hcongr : ∀ visits : List (Region × Region),
      (∀ visit ∈ visits, fetch source options visit.2 = fetch source options visit.1) →
        (visits.map Prod.snd).mapM (fetch source options) =
          (visits.map Prod.fst).mapM (fetch source options) := by
    intro visits h
    induction visits with
    | nil => rfl
    | cons visit visits ih =>
      obtain ⟨hvisit, hvisits⟩ := List.forall_mem_cons.1 h
      rw [List.map_cons, List.map_cons, List.mapM_cons, List.mapM_cons, hvisit, ih hvisits]
  -- a request is told from the family and the configuration, which a scan does not change
  rw [hcongr _ fun visit hvisit => ?_, map_fst_visits]
  obtain ⟨bodyLines, start, hfound⟩ := visits_found visit hvisit
  rw [hfound]
  rfl

/-- What each region shows, by the reply to the fetch for it. -/
def shownBy (options : UpdateOptions) (reply : Region → Listing) (r : Region) : List Text :=
  r.shown (reply r) options

/-- The reports of a pass, by the replies to its fetches. -/
def reports (f : Family) (options : UpdateOptions) (reply : Region → Listing) (o : Outline) :
    List RegionUpdate :=
  (o.visits f 0).map fun visit =>
    visit.2.report (Text.joinLines o.lines) options (reply visit.1)

/-- **A pass is a fetch for each region**: with these replies it ends in the text of the outline with
    the family rendered. -/
theorem updateFamily_of_fetch {o : Outline} (hvalid : o.IsValid) (hne : o.lines ≠ [])
    {reply : Region → Listing} (hfetch : (o.nodes [] f).mapM (fetch source options) s =
      (.ok ((o.nodes [] f).map reply), s')) :
    updateFamily source options (Text.joinLines o.lines) f s =
      (.ok (Text.joinLines (o.rendered f (shownBy options reply)).lines,
        o.reports f options reply), s') := by
  refine updateFamily_eq_ok_iff.2 ⟨_, (o.nodes [] f).map reply, scan_eq hvalid hne f, ?_, ?_, ?_⟩
  · rw [mapM_fetch_visits, hfetch]
  · rw [← spliceAll_edits]
    congr 1
    rw [replacements, ← map_fst_visits f 0, List.map_map, List.zipWith_map,
      List.zipWith_self, edits]
    refine List.map_congr_left fun visit hvisit => ?_
    obtain ⟨bodyLines, start, hfound⟩ := visits_found visit hvisit
    rw [hfound]
    exact congrArg _ (Region.render_eq visit.1 (reply visit.1) options).symm
  · rw [← map_fst_visits f 0, List.map_map, List.zipWith_map, List.zipWith_self]
    rfl

/-- A pass that succeeds has made its fetches. -/
theorem exists_fetch_of_updateFamily {o : Outline} (hvalid : o.IsValid) (hne : o.lines ≠ [])
    {result : Text × List RegionUpdate}
    (h : updateFamily source options (Text.joinLines o.lines) f s = (.ok result, s')) :
    ∃ listings, (o.nodes [] f).mapM (fetch source options) s = (.ok listings, s') := by
  obtain ⟨regions, listings, hscan, hlistings, -, -⟩ := updateFamily_eq_ok_iff.1 h
  rw [scan_eq hvalid hne f] at hscan
  obtain rfl := Except.ok.inj hscan
  rw [mapM_fetch_visits] at hlistings
  exact ⟨listings, hlistings⟩

end Run

end Outline

end ListeningCharts
