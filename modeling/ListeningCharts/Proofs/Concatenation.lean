import ListeningCharts.Proofs.Pairing
import ListeningCharts.Sample

/-! # Documents put together

    Two documents with a line feed between them are scanned as each of them alone, for an end marker
    closes a region that was opened before it, and none is left open where the first document ends.

    * **Shift**: the scan does not depend on where the lines start. From a later byte on, with the
      regions pending moved along, it finds the same regions, moved along, and the same errors
      (`pairMarkers_shift`).
    * **Seam**: behind lines that close all their regions the scan starts anew
      (`pairMarkers_append_of_ok`), and the error of a line stands whatever follows it
      (`pairMarkers_append_of_error`).
-/

namespace ListeningCharts

/-! ## Moving along -/

/-- The span, moved towards the end of a document. -/
def Span.shift (n : Nat) (s : Span) : Span := ⟨s.start + n, s.stop + n⟩

/-- The same region in a document with `n` more bytes in front. -/
def Region.shift (n : Nat) (r : Region) : Region := { r with span := r.span.shift n }

/-- The same open region in a document with `n` more bytes in front. -/
def OpenRegion.shift (n : Nat) (o : OpenRegion) : OpenRegion := { o with start := o.start + n }

variable {f : Family} {pending : List OpenRegion} {closed : List Region} {offset : Nat} {line : Text}
  {front : List Text} {e : Error}

theorem OpenRegion.close_shift (o : OpenRegion) (stop n : Nat) :
    (o.shift n).close f line (stop + n) = (o.close f line stop).shift n := rfl

theorem OpenRegion.receive_map_shift (line : Text) (pending : List OpenRegion) (n : Nat) :
    receive line (pending.map (shift n)) = (receive line pending).map (shift n) := by
  match pending with
  | [] => rfl
  | [_] => rfl
  | _ :: _ :: _ => rfl

/-- **The scan does not depend on where the lines start.** -/
theorem pairMarkers_shift (n : Nat) (lines : List Text) (pending : List OpenRegion) (offset : Nat) :
    pairMarkers f (pending.map (OpenRegion.shift n)) (offset + n) lines =
      (pairMarkers f pending offset lines).map (List.map (Region.shift n)) := by
  induction lines generalizing pending offset with
  | nil =>
    cases pending with
    | nil => rw [List.map_nil, pairMarkers, pairMarkers]; rfl
    | cons oldest pending =>
      rw [List.map_cons, pairMarkers_nil_of_pending, pairMarkers_nil_of_pending, ← List.map_cons,
        List.map_map]
      rfl
  | cons line lines ih =>
    have hnext : offset + n + line.byteLength + 1 = offset + line.byteLength + 1 + n := by omega
    cases hrole : f.role line with
    | opens =>
      rcases Marker.classify_of_opens hrole with ⟨fault, hfault⟩ | ⟨config, hkind⟩
      · rw [pairMarkers_of_classify_error hfault, pairMarkers_of_classify_error hfault]
        rfl
      · rw [pairMarkers_of_opening hkind, pairMarkers_of_opening hkind, ← ih, hnext, List.map_append]
        rfl
    | closes =>
      cases pending with
      | nil =>
        rw [List.map_nil, pairMarkers_of_closes_nil hrole, pairMarkers_of_closes_nil hrole]
        rfl
      | cons oldest pending =>
        have hstop : offset + n + line.byteLength = offset + line.byteLength + n := by omega
        rw [List.map_cons, pairMarkers_of_closes hrole, pairMarkers_of_closes hrole, hnext, ih,
          hstop, OpenRegion.close_shift]
        cases pairMarkers f pending (offset + line.byteLength + 1) lines <;> rfl
    | content =>
      rw [pairMarkers_of_content hrole, pairMarkers_of_content hrole, OpenRegion.receive_map_shift,
        hnext, ih]

/-! ## The seam -/

/-- Behind lines that close all their regions the scan starts anew. -/
theorem pairMarkers_append_of_ok (h : pairMarkers f pending offset front = .ok closed)
    (back : List Text) :
    pairMarkers f pending offset (front ++ back) =
      (pairMarkers f [] (offset + (Text.unlines front).byteLength) back).map (closed ++ ·) := by
  -- one case for each line that the pairing of the first lines reads
  have hpairing := pairMarkers_eq_ok_iff.1 h
  clear h
  induction hpairing with
  | @done offset =>
    rw [List.nil_append, Text.unlines_nil, Text.byteLength_nil, Nat.add_zero]
    cases pairMarkers f [] offset back <;> rfl
  | opens hkind _ ih =>
    rw [List.cons_append, pairMarkers_of_opening hkind, ih, Text.byteLength_unlines_cons]
    simp only [Nat.add_assoc]
  | closes hrole _ ih =>
    rw [List.cons_append, pairMarkers_of_closes hrole, ih, Text.byteLength_unlines_cons]
    simp only [Nat.add_assoc]
    cases pairMarkers f [] _ back <;> rfl
  | content hrole _ ih =>
    rw [List.cons_append, pairMarkers_of_content hrole, ih, Text.byteLength_unlines_cons]
    simp only [Nat.add_assoc]

/-- The error of a line stands whatever follows it. Only start markers that are left at the end of
    the lines may still be closed. -/
theorem pairMarkers_append_of_error (h : pairMarkers f pending offset front = .error e)
    (hline : ∀ markers, e ≠ .startWithoutEnd markers) (back : List Text) :
    pairMarkers f pending offset (front ++ back) = .error e := by
  induction front generalizing pending offset with
  | nil =>
    cases pending with
    | nil => rw [pairMarkers] at h; cases h
    | cons oldest pending =>
      rw [pairMarkers_nil_of_pending] at h
      cases h
      exact absurd rfl (hline _)
  | cons line front ih =>
    rw [List.cons_append]
    cases hrole : f.role line with
    | opens =>
      rcases Marker.classify_of_opens hrole with ⟨fault, hfault⟩ | ⟨config, hkind⟩
      · rw [pairMarkers_of_classify_error hfault] at h ⊢
        exact h
      · rw [pairMarkers_of_opening hkind] at h ⊢
        exact ih h
    | closes =>
      cases pending with
      | nil =>
        rw [pairMarkers_of_closes_nil hrole] at h ⊢
        exact h
      | cons oldest pending =>
        rw [pairMarkers_of_closes hrole] at h ⊢
        cases hrest : pairMarkers f pending (offset + line.byteLength + 1) front with
        | ok others => rw [hrest] at h; cases h
        | error e' =>
          rw [hrest] at h
          cases h
          rw [ih hrest]
          rfl
    | content =>
      rw [pairMarkers_of_content hrole] at h ⊢
      exact ih h

/-! ## Two documents -/

/-- The lines with their line feeds take one byte more than the text. -/
theorem Text.byteLength_unlines_lines (t : Text) : (unlines t.lines).byteLength = t.byteLength + 1 := by
  rw [← byteLength_joinLines (lines_ne_nil t), joinLines_lines]

/-- Behind a document without errors a second one is scanned as it would be alone. -/
theorem scan_append_of_ok {a : Text} {regions : List Region} (h : scan f a = .ok regions) (b : Text) :
    scan f (a ++ '\n' :: b) =
      (scan f b).map fun others => regions ++ others.map (Region.shift (a.byteLength + 1)) := by
  have hshift := pairMarkers_shift (f := f) (a.byteLength + 1) b.lines [] 0
  rw [scan] at h
  rw [List.map_nil, ← scan] at hshift
  rw [scan, Text.lines_append_lineFeed_append, pairMarkers_append_of_ok h,
    Text.byteLength_unlines_lines, hshift]
  cases scan f b <;> rfl

/-- **Scanning is compositional**.

    * Two documents that the scan accepts, with a line feed between them, have the regions of the
      first one followed by those of the second one. The spans of the latter are moved along by the
      bytes of the first document and the line feed, and nothing else of them changes.
    * If the first document is accepted and the second one is not, the error is that of the second.
    * If a line of the first document is at fault, the error is the same whatever follows. -/
theorem scan_append (f : Family) (a b : Text) :
    (∀ ra rb, scan f a = .ok ra → scan f b = .ok rb →
      scan f (a ++ '\n' :: b) = .ok (ra ++ rb.map (Region.shift (a.byteLength + 1)))) ∧
    (∀ ra e, scan f a = .ok ra → scan f b = .error e → scan f (a ++ '\n' :: b) = .error e) ∧
    (∀ line fault, scan f a = .error (.malformedConfiguration line fault) →
      scan f (a ++ '\n' :: b) = .error (.malformedConfiguration line fault)) ∧
    (∀ line, scan f a = .error (.endWithoutStart line) →
      scan f (a ++ '\n' :: b) = .error (.endWithoutStart line)) := by
  refine ⟨fun ra rb ha hb => ?_, fun ra e ha hb => ?_, fun line fault ha => ?_, fun line ha => ?_⟩
  · rw [scan_append_of_ok ha, hb]
    rfl
  · rw [scan_append_of_ok ha, hb]
    rfl
  · rw [scan] at ha ⊢
    rw [Text.lines_append_lineFeed_append]
    exact pairMarkers_append_of_error ha (fun _ => nofun) b.lines
  · rw [scan] at ha ⊢
    rw [Text.lines_append_lineFeed_append]
    exact pairMarkers_append_of_error ha (fun _ => nofun) b.lines

/-- Behind one region, two regions that overlap, an end marker that closes none, and the other way
    round; and a start marker with text behind it and without an arrow. -/
theorem scan_append_samples :
    (∃ ra rb : List Region, ra.length = 1 ∧ rb.length = 2 ∧
      scan .tracks (Sample.trackDocument ++ '\n' :: Sample.overlappingDocument) =
        .ok (ra ++ rb.map (Region.shift (Sample.trackDocument.byteLength + 1)))) ∧
    scan .tracks (Sample.trackDocument ++ '\n' :: ("<!--END_LASTFM_TRACKS-->" : Text)) =
      .error (.endWithoutStart "<!--END_LASTFM_TRACKS-->") ∧
    scan .tracks (("<!--END_LASTFM_TRACKS-->" : Text) ++ '\n' :: Sample.trackDocument) =
      .error (.endWithoutStart "<!--END_LASTFM_TRACKS-->") ∧
    scan .tracks (("<!--START_LASTFM_TRACKS -->" : Text) ++ '\n' :: Sample.trackDocument) =
      .error (.malformedConfiguration "<!--START_LASTFM_TRACKS -->" (.form .tracks)) := by
  obtain ⟨ra, ha, hra⟩ := exists_ok_of_any (x := scan .tracks Sample.trackDocument)
    (p := fun ra => ra.length = 1) (by decide +kernel)
  obtain ⟨rb, hb, hrb⟩ := exists_ok_of_any (x := scan .tracks Sample.overlappingDocument)
    (p := fun rb => rb.length = 2) (by decide +kernel)
  refine ⟨⟨ra, rb, of_decide_eq_true hra, of_decide_eq_true hrb, ?_⟩, ?_, ?_, ?_⟩
  · exact (scan_append _ _ _).1 ra rb ha hb
  · exact (scan_append _ _ _).2.1 ra _ ha (by decide +kernel)
  · exact (scan_append _ _ _).2.2.2 _ (by decide +kernel)
  · exact (scan_append _ _ _).2.2.1 _ _ (by decide +kernel)

end ListeningCharts
