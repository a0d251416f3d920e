import ListeningCharts.Proofs.Numbering
import ListeningCharts.Proofs.OneLine
import ListeningCharts.Proofs.Outline
import ListeningCharts.Response

/-! # Reading a rendered region again

    A rendered region is put into the document as it is, texts of the service included, and the next
    run reads it as any other text. It is one region to the scan of its family if and only if no line
    between its markers reads like a marker of the family (`Region.IsMarked.scan_textOf_iff`), and
    these lines come from texts of more than one line alone (`reread_iff`).
-/

namespace ListeningCharts

namespace Region

variable {r : Region} {body : List Text}

/-! ## Lines between two markers -/

/-- A region by itself has the lines that it is made of. -/
theorem IsMarked.lines_textOf (h : r.IsMarked) (hone : ∀ l ∈ body, '\n' ∉ l) :
    (textOf r.startMarker body r.endMarker).lines = r.startMarker :: (body ++ [r.endMarker]) := by
  unfold textOf
  apply Text.lines_joinLines (List.cons_ne_nil _ _)
  show ∀ l ∈ r.startMarker :: (body ++ [r.endMarker]), '\n' ∉ l
  intro l hl
  rcases List.mem_cons.1 hl with rfl | hl
  · exact h.start_one
  · rcases List.mem_append.1 hl with hl | hl
    · exact hone l hl
    · exact List.mem_singleton.1 hl ▸ h.end_one

/-- With content between its markers, a region by itself is found again. -/
theorem IsMarked.scan_textOf (h : r.IsMarked) (hone : ∀ l ∈ body, '\n' ∉ l)
    (hcontent : ∀ l ∈ body, r.family.role l = .content) :
    scan r.family (textOf r.startMarker body r.endMarker) = .ok [r.found body 0] := by
  unfold scan
  rw [h.lines_textOf hone, Outline.pairMarkers_region h hcontent, pairMarkers]
  rfl

/-- A region by itself that is found to be one region has content between its markers. -/
theorem IsMarked.content_of_scan_textOf (h : r.IsMarked) (hone : ∀ l ∈ body, '\n' ∉ l)
    {again : Region} (hscan : scan r.family (textOf r.startMarker body r.endMarker) = .ok [again]) :
    ∀ l ∈ body, r.family.role l = .content := by
  have hopens := length_eq_count_opens hscan
  have hcloses := length_eq_count_closes hscan
  have hstart : r.family.role r.startMarker = .opens := Marker.role_of_classify_opening h.opens
  have hnotCloses : r.family.role r.startMarker ≠ .closes := by simp [hstart]
  -- the two markers are the one line that opens a region and the one that closes it
  rw [h.lines_textOf hone, Family.count_cons_self hstart, Family.count_append,
    List.length_singleton] at hopens
  rw [h.lines_textOf hone, Family.count_cons_of_ne hnotCloses, Family.count_snoc_self h.closes,
    List.length_singleton] at hcloses
  intro l hl
  have hnone : ∀ role, r.family.count role body = 0 → r.family.role l ≠ role := by
    intro role hcount
    unfold Family.count at hcount
    simpa using List.countP_eq_zero.1 hcount l hl
  have hnotOpens := hnone .opens (by omega)
  have hnotEnd := hnone .closes (by omega)
  cases hrole : r.family.role l with
  | opens => exact absurd hrole hnotOpens
  | closes => exact absurd hrole hnotEnd
  | content => rfl

/-- **One region is read** in a region by itself if and only if there is content between its
    markers, and it is that region. -/
theorem IsMarked.scan_textOf_iff (h : r.IsMarked) (hone : ∀ l ∈ body, '\n' ∉ l) :
    ((∃ again, scan r.family (textOf r.startMarker body r.endMarker) = .ok [again]) ↔
        ∀ l ∈ body, r.family.role l = .content) ∧
      ∀ again, scan r.family (textOf r.startMarker body r.endMarker) = .ok [again] →
        again = r.found body 0 := by
  refine ⟨⟨?_, ?_⟩, ?_⟩
  · intro ⟨again, hscan⟩
    exact h.content_of_scan_textOf hone hscan
  · intro hcontent
    exact ⟨_, h.scan_textOf hone hcontent⟩
  · intro again hscan
    rw [h.scan_textOf hone (h.content_of_scan_textOf hone hscan)] at hscan
    cases hscan
    rfl

end Region

/-! ## Rendered regions -/

/-- **A rendered region is one region again** if and only if no text that it shows has a line, but
    for its first one, that starts like a marker of the family. The region that is read then has the
    markers and the configuration of the rendered one, and its text is all that was rendered. -/
theorem reread_iff {f : Family} {document locale pattern : Text} {regions : List Region} {r : Region}
    {options : UpdateOptions} (listing : Listing) (hscan : scan f document = .ok regions)
    (hr : r ∈ regions) (hformats : Formats.ofLocale locale pattern = .ok options.formats) :
    ((∃ again, scan f (r.render listing options) = .ok [again]) ↔
        ∀ t ∈ r.texts listing options, ∀ line ∈ t.lines.tail,
          ¬ f.startPrefix <+: line ∧ ¬ f.endPrefix <+: line) ∧
      ∀ again, scan f (r.render listing options) = .ok [again] →
        again.startMarker = r.startMarker ∧ again.endMarker = r.endMarker ∧
          again.config = r.config ∧ again.fullText = r.render listing options := by
  have hmarked : r.IsMarked := (isShaped_of_scan hscan r hr).toIsMarked
  have hone : ∀ l ∈ r.shown listing options, '\n' ∉ l := fun l hl =>
    Text.lineFeed_not_mem_of_mem_lines hl
  have hcontent := @Region.isContent_shown_iff f options (Formats.lineFeed_not_mem_number hformats)
    r listing
  have htexts : (∀ t ∈ r.texts listing options, f.IsContentBelow t) ↔
      ∀ t ∈ r.texts listing options, ∀ line ∈ t.lines.tail,
        ¬ f.startPrefix <+: line ∧ ¬ f.endPrefix <+: line := by
    unfold Family.IsContentBelow
    exact forall₂_congr fun t _ => forall₂_congr fun line _ => Family.role_eq_content_iff
  obtain ⟨hiff, hfound⟩ := hmarked.scan_textOf_iff hone
  rw [family_of_scan hscan r hr] at hiff hfound
  rw [r.render_eq, ← htexts, ← hcontent]
  refine ⟨hiff, ?_⟩
  intro again hagain
  rw [hfound again hagain]
  exact ⟨rfl, rfl, rfl, rfl⟩

/-- A track whose name has a second line that is no marker. -/
theorem reread_iff_twoLines :
    ∃ regions r again, scan .tracks Sample.profileDocument = .ok regions ∧ r ∈ regions ∧
      scan .tracks (r.render (.tracks [Sample.track "Airbag\n(live)" 12]) Sample.options) =
        .ok [again] ∧ again.config = r.config ∧ again.config.rows = 2 := by
  obtain ⟨regions, hscan, hregions⟩ : ∃ regions, scan .tracks Sample.profileDocument = .ok regions ∧
      decide (∃ r ∈ regions, r.config.rows = 2 ∧
        ∀ t ∈ r.texts (.tracks [Sample.track "Airbag\n(live)" 12]) Sample.options,
          ∀ line ∈ t.lines.tail, ¬ Family.tracks.startPrefix <+: line ∧
            ¬ Family.tracks.endPrefix <+: line) = true := exists_ok_of_any (by decide +kernel)
  obtain ⟨r, hr, hrows, htexts⟩ := of_decide_eq_true hregions
  obtain ⟨hiff, hsame⟩ := @reread_iff _ _ _ _ _ _ Sample.options
    (.tracks [Sample.track "Airbag\n(live)" 12]) hscan hr Sample.ofLocale_formats
  obtain ⟨again, hagain⟩ := hiff.2 htexts
  obtain ⟨-, -, hconfig, -⟩ := hsame again hagain
  exact ⟨regions, r, again, hscan, hr, hagain, hconfig, hconfig ▸ hrows⟩

/-- Not every listing that the service sends is rendered as one region: the second line of a name
    may close it, and then the end marker closes nothing. -/
theorem not_reread_brokenTrack :
    ¬ ∀ (f : Family) (document locale pattern body : Text) (regions : List Region) (r : Region)
        (options : UpdateOptions) (listing : Listing),
      scan f document = .ok regions → r ∈ regions →
      Formats.ofLocale locale pattern = .ok options.formats →
      Response.parse f body = .ok listing → listing.family = f →
      ∃ again, scan f (r.render listing options) = .ok [again] ∧
        again.startMarker = r.startMarker ∧ again.endMarker = r.endMarker ∧
        again.config = r.config ∧ again.fullText = r.render listing options := by
  intro h
  have hparse : Response.parse .tracks Sample.brokenBody = .ok (.tracks [Sample.brokenTrack]) := by
    decide +kernel
  obtain ⟨regions, hscan, hregions⟩ : ∃ regions, scan .tracks Sample.trackDocument = .ok regions ∧
      decide (∃ r ∈ regions,
        scan .tracks (r.render (.tracks [Sample.brokenTrack]) Sample.options) =
          .error (.endWithoutStart "<!--END_LASTFM_TRACKS-->")) = true :=
    exists_ok_of_any (by decide +kernel)
  obtain ⟨r, hr, hfault⟩ := of_decide_eq_true hregions
  obtain ⟨again, hagain, -⟩ := h _ _ _ _ _ _ _ Sample.options _ hscan hr Sample.ofLocale_formats
    hparse rfl
  rw [hfault] at hagain
  cases hagain

end ListeningCharts
