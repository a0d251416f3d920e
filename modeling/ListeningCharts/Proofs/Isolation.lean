import ListeningCharts.Proofs.Concatenation
import ListeningCharts.Proofs.InPlace

/-! # Isolation

    A family does not see what becomes of the regions of another one. A region that no other region
    overlaps is a stretch of lines in front of which all regions of the other family are closed, and
    in which none is opened. Such a stretch can be exchanged for any other lines of content: the scan
    finds the same regions in front of it, and those behind it moved along.

    * **Cuts**: where no region lies across it, a document is read in two parts (`Pairing.exists_cut`).
    * **Stretches**: lines in which no region starts are content while none is open
      (`Pairing.content_of_starts`), and whatever content stands there, the rest is found behind it
      (`scan_around`).
    * **Families are isolated**: splicing new lines into a region moves the regions of another
      family and changes nothing else of them (`scan_splice_of_ne`).
-/

namespace ListeningCharts

/-! ## Moving to either side -/

/-- The span, with `d` bytes more in front of it, or fewer if `d` is negative. -/
def Span.move (d : Int) (s : Span) : Span := ⟨(s.start + d).toNat, (s.stop + d).toNat⟩

/-- The region as it is found once there are `d` bytes more in front of byte `stop`: moved if it
    starts behind that byte, and as it was otherwise. -/
def Region.follow (stop : Nat) (d : Int) (r : Region) : Region :=
  if stop ≤ r.span.start then { r with span := r.span.move d } else r

/-- The markers of a region with other lines between them. -/
def Region.withBody (r : Region) (body : List Text) : Text :=
  textOf r.startMarker body r.endMarker

/-- By how many bytes a document grows when a text takes the place of a region. -/
def Region.growth (r : Region) (replacement : Text) : Int :=
  replacement.byteLength - r.fullText.byteLength

variable {f g : Family} {pending : List OpenRegion} {offset : Nat}
  {lines front mid inside back body : List Text} {regions others closed base : List Region}

theorem Region.follow_of_lt {r : Region} {stop : Nat} (h : r.span.start < stop) (d : Int) :
    r.follow stop d = r := if_neg (Nat.not_le_of_lt h)

theorem Region.follow_shift {r : Region} {stop n m : Nat} {d : Int} (hstop : stop ≤ n)
    (hd : (n : Int) + d = m) : (r.shift n).follow stop d = r.shift m := by
  have hle : stop ≤ (r.shift n).span.start := Nat.le_trans hstop (Nat.le_add_left _ _)
  have hstart : (((r.span.start + n : Nat) : Int) + d).toNat = r.span.start + m := by omega
  have hend : (((r.span.stop + n : Nat) : Int) + d).toNat = r.span.stop + m := by omega
  rw [follow, if_pos hle]
  unfold shift Span.shift Span.move
  rw [hstart, hend]

/-! ## Cuts -/

namespace Pairing

/-- Every region ends in the lines that are read. -/
theorem stop_lt (h : Pairing f pending offset lines regions) :
    ∀ r ∈ regions, r.span.stop < offset + (Text.unlines lines).byteLength := by
  induction h with
  | done => simp
  | opens _ _ ih | content _ _ ih =>
    intro r hr
    have hlt := ih r hr
    rw [Text.byteLength_unlines_cons]
    omega
  | @closes oldest pending offset line lines regions hrole rest ih =>
    intro r hr
    rw [Text.byteLength_unlines_cons]
    rcases List.mem_cons.1 hr with rfl | hr
    · show offset + line.byteLength < _
      omega
    · have hlt := ih r hr
      omega

/-- **Lines are read in two parts** if no region lies across the cut: the first part closes all that
    is open, and nothing is open where the second one starts. -/
theorem exists_cut (h : Pairing f pending offset (front ++ back) regions)
    (hpending : ∀ p ∈ pending, p.start < offset)
    (hcut : ∀ s ∈ regions, ¬ (s.span.start < offset + (Text.unlines front).byteLength ∧
      offset + (Text.unlines front).byteLength < s.span.stop)) :
    ∃ closed later, regions = closed ++ later ∧ Pairing f pending offset front closed ∧
      Pairing f [] (offset + (Text.unlines front).byteLength) back later := by
  induction front generalizing pending offset regions with
  | nil =>
    cases pending with
    | nil => exact ⟨[], regions, rfl, .done, h⟩
    | cons oldest pending =>
      -- the region that is open here is closed further on, so it lies across the cut
      obtain ⟨s, hs, hstart⟩ := h.exists_mem_of_pending (p := oldest) List.mem_cons_self
      have hlt := hpending oldest List.mem_cons_self
      have hstop := h.offset_lt_stop s hs
      exact absurd ⟨by rw [hstart]; exact hlt, hstop⟩ (hcut s hs)
  | cons line front ih =>
    have hnext : offset + (Text.unlines (line :: front)).byteLength =
        offset + line.byteLength + 1 + (Text.unlines front).byteLength := by
      rw [Text.byteLength_unlines_cons]
      omega
    rw [hnext] at hcut ⊢
    cases h with
    | @opens _ _ _ _ _ config hkind rest =>
      have hopen : ∀ p ∈ pending ++ [⟨line, offset, config, []⟩], p.start ≤ offset :=
        start_le_of_mem_open hpending rfl
      obtain ⟨closed, later, heq, hfront, hback⟩ :=
        ih rest (fun p hp => by have hle := hopen p hp; omega) hcut
      exact ⟨closed, later, heq, .opens hkind hfront, hback⟩
    | @closes oldest pending _ _ _ regions hrole rest =>
      obtain ⟨-, hcut⟩ := List.forall_mem_cons.1 hcut
      obtain ⟨-, hpending⟩ := List.forall_mem_cons.1 hpending
      obtain ⟨closed, later, heq, hfront, hback⟩ :=
        ih rest (fun p hp => by have hlt := hpending p hp; omega) hcut
      refine ⟨_ :: closed, later, ?_, .closes hrole hfront, hback⟩
      rw [heq, List.cons_append]
    | content hrole rest =>
      have hreceive := start_lt_of_mem_receive hpending line
      obtain ⟨closed, later, heq, hfront, hback⟩ :=
        ih rest (fun p hp => by have hlt := hreceive p hp; omega) hcut
      exact ⟨closed, later, heq, .content hrole hfront, hback⟩

/-- While no region is open, lines in which none starts are content. -/
theorem content_of_starts (h : Pairing f [] offset (mid ++ back) regions)
    (hstarts : ∀ s ∈ regions, offset + (Text.unlines mid).byteLength ≤ s.span.start) :
    (∀ l ∈ mid, f.role l = .content) ∧
      Pairing f [] (offset + (Text.unlines mid).byteLength) back regions := by
  induction mid generalizing offset with
  | nil => exact ⟨by simp, h⟩
  | cons line mid ih =>
    have hnext : offset + (Text.unlines (line :: mid)).byteLength =
        offset + line.byteLength + 1 + (Text.unlines mid).byteLength := by
      rw [Text.byteLength_unlines_cons]
      omega
    rw [hnext] at hstarts ⊢
    cases h with
    | opens hkind rest =>
      -- the region that the line opens starts at the line
      obtain ⟨s, hs, hstart⟩ := rest.exists_mem_of_pending List.mem_cons_self
      have hle := hstarts s hs
      have heq : s.span.start = offset := hstart
      omega
    | content hrole rest =>
      obtain ⟨hmid, hback⟩ := ih rest hstarts
      exact ⟨List.forall_mem_cons.2 ⟨hrole, hmid⟩, hback⟩

end Pairing

/-! ## Stretches of content -/

/-- **Whatever content stands between lines, the regions around it are the same**: those in front of
    it, and those behind it, moved along by the bytes in front of them. -/
theorem scan_around (hfront : Pairing f [] 0 front closed)
    (hback : pairMarkers f [] 0 back = .ok base) {texts : List Text} (hne : texts ≠ [])
    (hone : ∀ l ∈ front ++ texts ++ back, '\n' ∉ l) (htexts : ∀ l ∈ texts, f.role l = .content) :
    scan f (Text.joinLines (front ++ texts ++ back)) = .ok (closed ++
      base.map (Region.shift ((Text.unlines front).byteLength +
        (Text.unlines texts).byteLength))) := by
  have hlines : (Text.joinLines (front ++ texts ++ back)).lines = front ++ (texts ++ back) := by
    rw [Text.lines_joinLines (by simp [hne]) hone, List.append_assoc]
  have hshift := pairMarkers_shift (f := f)
    ((Text.unlines front).byteLength + (Text.unlines texts).byteLength) back [] 0
  rw [hback, List.map_nil, Nat.zero_add] at hshift
  rw [scan, hlines, pairMarkers_append_of_ok (pairMarkers_eq_ok_iff.2 hfront), Nat.zero_add,
    Outline.pairMarkers_nil_append htexts, hshift]
  rfl

/-- The lines of a region, markers included, take the bytes of its text and one more. -/
theorem Region.byteLength_unlines_withBody (r : Region) (body : List Text) :
    (Text.unlines (r.startMarker :: body ++ [r.endMarker])).byteLength =
      (r.withBody body).byteLength + 1 := by
  rw [withBody, textOf, Text.byteLength_joinLines (by simp)]

section Regions

variable {document : Text} {r : Region} {k : Nat}

/-- The markers of a region and the lines between them are content to another family, whose regions
    are closed in front of it, if no region of that family overlaps it. -/
theorem Region.IsNumber.exists_around (hne : f ≠ g)
    (hr : r.IsNumber g document.lines k front inside back) (hscan : scan f document = .ok regions)
    (hclear : ∀ s ∈ regions, s.span.Disjoint r.span) :
    ∃ closed base, Pairing f [] 0 front closed ∧ pairMarkers f [] 0 back = .ok base ∧
      ∀ l ∈ r.startMarker :: inside ++ [r.endMarker], f.role l = .content := by
  have hpairing := scan_eq_ok_iff.1 hscan
  have hlt := hr.start_lt_stop
  rw [hr.lines_eq] at hpairing
  -- a region across the start of `r` would overlap it
  obtain ⟨closed, later, rfl, hfront, hlater⟩ := hpairing.exists_cut (by simp) (by
    intro s hs hcross
    rw [Nat.zero_add, ← hr.start_eq] at hcross
    rcases hclear s hs with hle | hle <;> omega)
  rw [Nat.zero_add, ← hr.start_eq, ← List.cons_append] at hlater
  -- so would one that starts between its markers
  obtain ⟨hcontent, hrest⟩ := hlater.content_of_starts (by
    intro s hs
    have hstop := hlater.offset_lt_stop s hs
    have hend := hr.stop_eq
    rw [Text.byteLength_unlines_append, ← hr.start_eq] at hend
    rcases hclear s (List.mem_append_right _ hs) with hle | hle <;> omega)
  have hend : f.role r.endMarker = .content := Family.role_of_ne (by simp [hr.closes]) hne
  have hback : pairMarkers f [] (r.span.start + (Text.unlines (r.startMarker :: inside)).byteLength +
      r.endMarker.byteLength + 1) back = .ok later :=
    pairMarkers_eq_ok_iff.2 (hrest.of_content hend)
  -- what is found behind the region is found there wherever the lines start
  have hshift := pairMarkers_shift (f := f) (r.span.start +
    (Text.unlines (r.startMarker :: inside)).byteLength + r.endMarker.byteLength + 1) back [] 0
  rw [List.map_nil, Nat.zero_add, hback] at hshift
  obtain ⟨base, hbase, -⟩ := map_eq_ok_iff.1 hshift.symm
  refine ⟨closed, base, hfront, hbase, fun l hl => ?_⟩
  rcases List.mem_append.1 hl with hl | hl
  · exact hcontent l hl
  · rw [List.mem_singleton.1 hl]
    exact hend

/-- A document as the lines of a region and those around it. -/
theorem Region.IsNumber.document_eq (hr : r.IsNumber g document.lines k front inside back) :
    document = Text.joinLines (front ++ (r.startMarker :: inside ++ [r.endMarker]) ++ back) := by
  rw [← Text.joinLines_lines document, hr.lines_eq]
  simp

/-- A region whose text is all lines between its markers ends with its text. -/
theorem Region.IsNumber.stop_eq_start_add (hr : r.IsNumber g document.lines k front inside back)
    (htext : r.fullText = r.withBody inside) :
    r.span.stop = r.span.start + r.fullText.byteLength := by
  have hslice := hr.slice_eq
  rw [← withBody, ← htext] at hslice
  obtain ⟨_, _, -, hstart, hstop⟩ := Text.slice?_eq_some_iff.1 hslice
  omega

/-- A region whose text is all lines between its markers gives way to other lines. -/
theorem Region.IsNumber.splice_withBody (hr : r.IsNumber g document.lines k front inside back)
    (htext : r.fullText = r.withBody inside) (body : List Text) :
    r.splice document (r.withBody body) =
      Text.joinLines (front ++ (r.startMarker :: body ++ [r.endMarker]) ++ back) := by
  have hstop := hr.stop_eq_start_add htext
  rw [hr.start_eq] at hstop
  conv_lhs => rw [hr.document_eq]
  exact splice_joinLines (by simp) (by simp) htext hr.start_eq hstop

/-- Whatever content stands between the markers of a region, another family finds the same around
    it. -/
theorem Region.IsNumber.scan_withBody (hr : r.IsNumber g document.lines k front inside back)
    (hfront : Pairing f [] 0 front closed) (hback : pairMarkers f [] 0 back = .ok base)
    (hone : ∀ l ∈ body, '\n' ∉ l)
    (hcontent : ∀ l ∈ r.startMarker :: body ++ [r.endMarker], f.role l = .content) :
    scan f (Text.joinLines (front ++ (r.startMarker :: body ++ [r.endMarker]) ++ back)) =
      .ok (closed ++ base.map (shift (r.span.start + (r.withBody body).byteLength + 1))) := by
  have hlines : ∀ l ∈ front ++ (r.startMarker :: body ++ [r.endMarker]) ++ back, '\n' ∉ l := by
    have hdocument : ∀ l ∈ front ++ r.startMarker :: (inside ++ r.endMarker :: back), '\n' ∉ l := by
      rw [← hr.lines_eq]
      exact fun l hl => Text.lineFeed_not_mem_of_mem_lines hl
    intro l hl
    simp only [List.mem_append, List.mem_cons] at hl hdocument
    -- a line of the document, unless it is one of the new ones
    by_cases hbody : l ∈ body
    · exact hone l hbody
    · exact hdocument l (by tauto)
  have hscan := scan_around hfront hback (by simp) hlines hcontent
  rw [r.byteLength_unlines_withBody, ← hr.start_eq, ← Nat.add_assoc] at hscan
  exact hscan

end Regions

/-- **Families are isolated**.

    A region of one family that overlaps neither another region of it nor a region of a second family
    is replaced by its markers with other lines between them, of which none starts like a marker of
    the second family. Then the scan of the second family finds the same regions as before. Those
    behind the replaced region are moved by the difference of the lengths; nothing else of them
    changes, and nothing of the others. -/
theorem scan_splice_of_ne {f g : Family} (hne : f ≠ g) {document : Text}
    {regions others : List Region} (hf : scan f document = .ok regions)
    (hg : scan g document = .ok others) {r : Region} (hr : r ∈ others) (halone : r.IsAlone others)
    (hclear : ∀ s ∈ regions, s.span.Disjoint r.span) {body : List Text}
    (hbody : ∀ l ∈ body, '\n' ∉ l ∧ ¬ f.startPrefix <+: l ∧ ¬ f.endPrefix <+: l) :
    scan f (r.splice document (r.withBody body)) =
        .ok (regions.map (Region.follow r.span.stop (r.growth (r.withBody body)))) ∧
      ∀ s ∈ regions, r.span.stop ≤ s.span.start →
        0 ≤ s.span.start + r.growth (r.withBody body) := by
  obtain ⟨k, hk⟩ := List.mem_iff_getElem?.1 hr
  obtain ⟨front, inside, back, hnumber⟩ := isNumber_of_scan hg hk
  have hinside := (isAlone_iff hg hk hnumber).1 halone
  have hbodyLines := hnumber.bodyLines_eq hinside
  have hshape := isShaped_of_scan hg r hr
  have htext : r.fullText = r.withBody inside := by
    rw [hshape.text, hbodyLines, Region.withBody]
  obtain ⟨closed, base, hfront, hback, hcontent⟩ := hnumber.exists_around hne hf hclear
  have hcontent' : ∀ l ∈ r.startMarker :: body ++ [r.endMarker], f.role l = .content := by
    intro l hl
    by_cases hnew : l ∈ body
    · exact Family.role_eq_content_iff.2 (hbody l hnew).2
    · apply hcontent
      simp only [List.mem_append, List.mem_cons] at hl ⊢
      tauto
  -- before and after, the document is the same lines around lines of content
  have hbefore := hnumber.scan_withBody hfront hback (hbodyLines ▸ hshape.body_one) hcontent
  have hafter := hnumber.scan_withBody hfront hback (fun l hl => (hbody l hl).1) hcontent'
  rw [← hnumber.document_eq, hf, ← htext] at hbefore
  obtain rfl := Except.ok.inj hbefore
  have hstop := hnumber.stop_eq_start_add htext
  have hgrowth : r.growth (r.withBody body) =
      (r.withBody body).byteLength - r.fullText.byteLength := rfl
  refine ⟨?_, fun s hs hle => by omega⟩
  rw [hnumber.splice_withBody htext, hafter, List.map_append, List.map_map]
  congr 2
  · -- what is closed in front of the region starts there
    refine ((List.map_congr_left fun s hs => ?_).trans (List.map_id closed)).symm
    apply Region.follow_of_lt
    have hlt := hfront.stop_lt s hs
    obtain ⟨j, hj⟩ := List.mem_iff_getElem?.1 (List.mem_append_left _ hs)
    obtain ⟨_, _, _, hs⟩ := isNumber_of_scan hf hj
    have hstart := hs.start_lt_stop
    rw [Nat.zero_add, ← hnumber.start_eq] at hlt
    omega
  · apply List.map_congr_left
    intro s hs
    symm
    apply Region.follow_shift <;> omega

/-- A region of albums between two regions of tracks, as they are scanned when a line that opens a
    region of albums and another line are put into it. -/
theorem scan_splice_of_ne_albums :
    let document := Sample.trackDocument ++ '\n' :: Sample.albumDocument ++ '\n' :: Sample.trackDocument
    let body : List Text := ["<!--START_LASTFM_ALBUMS-->", "OK Computer"]
    ∃ regions r, scan .tracks document = .ok regions ∧ scan .albums document = .ok [r] ∧
      regions.map Region.span = [⟨0, 51⟩, ⟨104, 155⟩] ∧
      scan .tracks (r.splice document (r.withBody body)) =
        .ok (regions.map (Region.follow r.span.stop (r.growth (r.withBody body)))) ∧
      regions.map (Region.span ∘ Region.follow r.span.stop (r.growth (r.withBody body))) =
        [⟨0, 51⟩, ⟨143, 194⟩] := by
  intro document body
  obtain ⟨regions, hf, hregions⟩ := exists_ok_of_any (x := scan .tracks document)
    (p := fun regions => decide (regions.map Region.span = [⟨0, 51⟩, ⟨104, 155⟩] ∧
      regions.map (Region.span ∘ Region.follow 103 39) = [⟨0, 51⟩, ⟨143, 194⟩])) (by decide +kernel)
  obtain ⟨others, hg, hothers⟩ := exists_ok_of_any (x := scan .albums document)
    (p := fun others => decide (others.map (fun r => (r.span, r.growth (r.withBody body))) =
      [(⟨52, 103⟩, 39)])) (by decide +kernel)
  obtain ⟨hspans, hmoved⟩ := of_decide_eq_true hregions
  obtain ⟨r, rfl, hr⟩ := List.map_eq_singleton_iff.1 (of_decide_eq_true hothers)
  obtain ⟨hspan, hgrowth⟩ := Prod.mk.inj hr
  have hclear : ∀ s ∈ regions, s.span.Disjoint r.span := by
    intro s hs
    have hmem : s.span ∈ regions.map Region.span := List.mem_map_of_mem hs
    rw [hspans] at hmem
    rw [hspan]
    revert hmem
    generalize s.span = span
    revert span
    decide
  have hbody : ∀ l ∈ body,
      '\n' ∉ l ∧ ¬ Family.tracks.startPrefix <+: l ∧ ¬ Family.tracks.endPrefix <+: l := by decide
  obtain ⟨hscan, -⟩ := scan_splice_of_ne (f := .tracks) (g := .albums) (by decide) hf hg
    List.mem_cons_self (by simp [Region.IsAlone]) hclear hbody
  refine ⟨regions, r, hf, hg, hspans, hscan, ?_⟩
  rw [hspan, hgrowth]
  exact hmoved

end ListeningCharts
