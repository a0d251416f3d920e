import ListeningCharts.Proofs.Lines
import ListeningCharts.Proofs.Markers
import ListeningCharts.Proofs.Outcomes

/-! # Pairing

    How the lines of a document close the regions of a family, as a relation with one rule for
    each role of a line. The relation holds of what `pairMarkers` returns and of nothing else
    (`pairMarkers_eq_ok_iff`), so a fact about the regions of a document is proved by induction on
    it, one case for each role.

    * **First in, first out**: the regions pending are closed in their order, before every region
      that is opened later (`Pairing.exists_eq_append`, `Pairing.stops_ascend`).
    * **Shape**: a region runs from an opening line to a closing line of its family, and the lines
      of its body are content to the family (`Pairing.isShaped`).
-/

namespace ListeningCharts

/-- What a line of content does to the regions that are open: it belongs to the only one. -/
def OpenRegion.receive (line : Text) : List OpenRegion → List OpenRegion
  | [only] => [only.push line]
  | pending => pending

/-- The lines, from byte `offset` on, close the regions, of those pending and those that the lines
    open. -/
inductive Pairing (f : Family) : List OpenRegion → Nat → List Text → List Region → Prop where
  | done {offset : Nat} : Pairing f [] offset [] []
  | opens {pending : List OpenRegion} {offset : Nat} {line : Text} {lines : List Text}
      {regions : List Region} {config : RegionConfig}
      (hkind : Marker.classify f line = .ok (.opening config))
      (rest : Pairing f (pending ++ [{ startMarker := line, start := offset, config }])
        (offset + line.byteLength + 1) lines regions) :
      Pairing f pending offset (line :: lines) regions
  | closes {oldest : OpenRegion} {pending : List OpenRegion} {offset : Nat} {line : Text}
      {lines : List Text} {regions : List Region} (hrole : f.role line = .closes)
      (rest : Pairing f pending (offset + line.byteLength + 1) lines regions) :
      Pairing f (oldest :: pending) offset (line :: lines)
        (oldest.close f line (offset + line.byteLength) :: regions)
  | content {pending : List OpenRegion} {offset : Nat} {line : Text} {lines : List Text}
      {regions : List Region} (hrole : f.role line = .content)
      (rest : Pairing f (OpenRegion.receive line pending) (offset + line.byteLength + 1) lines
        regions) :
      Pairing f pending offset (line :: lines) regions

variable {f : Family} {pending : List OpenRegion} {offset : Nat} {line : Text} {lines : List Text}
  {regions : List Region}

/-! ## The recursion by roles -/

/-- The regions that are pending behind the last line are reported, the oldest first. -/
theorem pairMarkers_nil_of_pending {oldest : OpenRegion} :
    pairMarkers f (oldest :: pending) offset [] =
      .error (.startWithoutEnd ((oldest :: pending).map OpenRegion.startMarker)) := by
  rw [pairMarkers.eq_def]

theorem pairMarkers_of_classify_error {fault : ConfigFault}
    (h : Marker.classify f line = .error fault) :
    pairMarkers f pending offset (line :: lines) = .error (.malformedConfiguration line fault) := by
  cases pending <;> rw [pairMarkers.eq_def] <;> simp only [h]

theorem pairMarkers_of_opening {config : RegionConfig}
    (h : Marker.classify f line = .ok (.opening config)) :
    pairMarkers f pending offset (line :: lines) =
      pairMarkers f (pending ++ [{ startMarker := line, start := offset, config }])
        (offset + line.byteLength + 1) lines := by
  cases pending <;> rw [pairMarkers.eq_def] <;> simp only [h]

theorem pairMarkers_of_closes {oldest : OpenRegion} (h : f.role line = .closes) :
    pairMarkers f (oldest :: pending) offset (line :: lines) =
      (pairMarkers f pending (offset + line.byteLength + 1) lines).map
        (oldest.close f line (offset + line.byteLength) :: ·) := by
  rw [pairMarkers, Marker.classify_of_closes h]
  simp only [bind, Except.bind, pure, Except.pure, Except.map]

theorem pairMarkers_of_closes_nil (h : f.role line = .closes) :
    pairMarkers f [] offset (line :: lines) = .error (.endWithoutStart line) := by
  rw [pairMarkers, Marker.classify_of_closes h]

theorem pairMarkers_of_content (h : f.role line = .content) :
    pairMarkers f pending offset (line :: lines) =
      pairMarkers f (OpenRegion.receive line pending) (offset + line.byteLength + 1) lines := by
  match pending with
  | [] | [_] | _ :: _ :: _ =>
    rw [pairMarkers.eq_def]
    simp only [Marker.classify_of_content h, OpenRegion.receive]

/-- What the scan of the remaining lines returns is what they close. -/
theorem pairMarkers_eq_ok_iff :
    pairMarkers f pending offset lines = .ok regions ↔ Pairing f pending offset lines regions := by
  constructor
  -- the role of the first line tells which rule applies
  · intro h
    induction lines generalizing pending offset regions with
    | nil =>
      cases pending with
      | nil =>
        rw [pairMarkers] at h
        cases h
        exact .done
      | cons oldest pending =>
        rw [pairMarkers_nil_of_pending] at h
        cases h
    | cons line lines ih =>
      cases hrole : f.role line with
      | opens =>
        rcases Marker.classify_of_opens hrole with ⟨fault, hfault⟩ | ⟨config, hkind⟩
        · rw [pairMarkers_of_classify_error hfault] at h
          cases h
        · exact .opens hkind (ih (pairMarkers_of_opening hkind ▸ h))
      | closes =>
        cases pending with
        | nil =>
          rw [pairMarkers_of_closes_nil hrole] at h
          cases h
        | cons oldest pending =>
          rw [pairMarkers_of_closes hrole] at h
          cases hrest : pairMarkers f pending (offset + line.byteLength + 1) lines with
          | error e =>
            rw [hrest] at h
            cases h
          | ok others =>
            rw [hrest] at h
            cases h
            exact .closes hrole (ih hrest)
      | content => exact .content hrole (ih (pairMarkers_of_content hrole ▸ h))
  -- every rule is one step of the scan
  · intro h
    induction h with
    | done => rw [pairMarkers]
    | opens hkind _ ih => rw [pairMarkers_of_opening hkind, ih]
    | closes hrole _ ih => rw [pairMarkers_of_closes hrole, ih]; rfl
    | content hrole _ ih => rw [pairMarkers_of_content hrole, ih]

/-- A scan that succeeds is a pairing of all the lines. -/
theorem scan_eq_ok_iff {document : Text} :
    scan f document = .ok regions ↔ Pairing f [] 0 document.lines regions :=
  pairMarkers_eq_ok_iff

namespace Pairing

/-! ## One line -/

theorem of_opens (h : Pairing f pending offset (line :: lines) regions)
    (hrole : f.role line = .opens) : ∃ config,
      Pairing f (pending ++ [{ startMarker := line, start := offset, config }])
        (offset + line.byteLength + 1) lines regions := by
  cases h with
  | opens _ rest => exact ⟨_, rest⟩
  | closes hrole' _ | content hrole' _ => simp [hrole] at hrole'

theorem of_closes (h : Pairing f pending offset (line :: lines) regions)
    (hrole : f.role line = .closes) : ∃ oldest others closed,
      pending = oldest :: others ∧
        regions = oldest.close f line (offset + line.byteLength) :: closed ∧
        Pairing f others (offset + line.byteLength + 1) lines closed := by
  cases h with
  | opens hkind _ => simp [Marker.role_of_classify_opening hkind] at hrole
  | closes _ rest => exact ⟨_, _, _, rfl, rfl, rest⟩
  | content hrole' _ => simp [hrole] at hrole'

theorem of_content (h : Pairing f pending offset (line :: lines) regions)
    (hrole : f.role line = .content) :
    Pairing f (OpenRegion.receive line pending) (offset + line.byteLength + 1) lines regions := by
  cases h with
  | opens hkind _ => simp [Marker.role_of_classify_opening hkind] at hrole
  | closes hrole' _ => simp [hrole] at hrole'
  | content _ rest => exact rest

/-! ## Order -/

/-- An end marker is not empty. -/
theorem byteLength_pos_of_closes (h : f.role line = .closes) : 0 < line.byteLength := by
  obtain ⟨rest, rfl⟩ := Family.role_eq_closes_iff.1 h
  have hpos : 0 < f.endPrefix.byteLength := by cases f <;> decide +kernel
  rw [Text.byteLength_append]
  omega

/-- Every region ends after the byte from which on the lines are read. -/
theorem offset_lt_stop (h : Pairing f pending offset lines regions) :
    ∀ r ∈ regions, offset < r.span.stop := by
  induction h with
  | done => simp
  | opens _ _ ih | content _ _ ih =>
    intro r hr
    have := ih r hr
    omega
  | @closes oldest pending offset line lines regions hrole rest ih =>
    intro r hr
    rcases List.mem_cons.1 hr with rfl | hr
    -- the region that is closed ends behind its end marker
    · have hpos := byteLength_pos_of_closes hrole
      show offset < offset + line.byteLength
      omega
    · have := ih r hr
      omega

/-- Regions are closed one after the other. -/
theorem stops_ascend (h : Pairing f pending offset lines regions) :
    regions.Pairwise fun r s => r.span.stop < s.span.stop := by
  induction h with
  | done => exact .nil
  | opens _ _ ih | content _ _ ih => exact ih
  | @closes oldest pending offset line lines regions hrole rest ih =>
    refine .cons (fun s hs => ?_) ih
    have := rest.offset_lt_stop s hs
    show offset + line.byteLength < s.span.stop
    omega

theorem map_start_receive (line : Text) (pending : List OpenRegion) :
    (OpenRegion.receive line pending).map OpenRegion.start = pending.map OpenRegion.start := by
  match pending with
  | [] => rfl
  | [_] => rfl
  | _ :: _ :: _ => rfl

theorem start_lt_of_mem_receive (h : ∀ p ∈ pending, p.start < offset) (line : Text) :
    ∀ p ∈ OpenRegion.receive line pending, p.start < offset := by
  have hstarts : ∀ start ∈ (OpenRegion.receive line pending).map OpenRegion.start,
      start < offset := by
    rw [map_start_receive]
    exact List.forall_mem_map.2 h
  exact List.forall_mem_map.1 hstarts

theorem start_le_of_mem_open (h : ∀ p ∈ pending, p.start < offset) {new : OpenRegion}
    (hnew : new.start = offset) : ∀ p ∈ pending ++ [new], p.start ≤ offset := by
  intro p hp
  rcases List.mem_append.1 hp with hp | hp
  · exact Nat.le_of_lt (h p hp)
  · exact Nat.le_of_eq (List.mem_singleton.1 hp ▸ hnew)

/-- The regions pending come first, in their order; every other region starts in the lines that are
    read. -/
theorem exists_eq_append (h : Pairing f pending offset lines regions) :
    ∃ mine others, regions = mine ++ others ∧
      mine.map (fun r => r.span.start) = pending.map OpenRegion.start ∧
      ∀ r ∈ others, offset ≤ r.span.start := by
  induction h with
  | done => exact ⟨[], [], rfl, rfl, by simp⟩
  | @opens pending offset line lines regions config hkind rest ih =>
    obtain ⟨mine, others, rfl, hstarts, hothers⟩ := ih
    rw [List.map_append] at hstarts
    -- the region opened here is the last of those pending behind the line, and starts at the line
    obtain ⟨first, new, rfl, hfirst, hnew⟩ := List.map_eq_append_iff.1 hstarts
    refine ⟨first, new ++ others, by simp, hfirst, fun r hr => ?_⟩
    rcases List.mem_append.1 hr with hr | hr
    · have hmem : r.span.start ∈ new.map fun r => r.span.start := List.mem_map_of_mem hr
      rw [hnew] at hmem
      simp only [List.map_cons, List.map_nil, List.mem_singleton] at hmem
      omega
    · have := hothers r hr
      omega
  | @closes oldest pending offset line lines regions hrole rest ih =>
    obtain ⟨mine, others, rfl, hstarts, hothers⟩ := ih
    refine ⟨oldest.close f line (offset + line.byteLength) :: mine, others, rfl, ?_, fun r hr => ?_⟩
    · simp [hstarts, OpenRegion.close]
    · have := hothers r hr
      omega
  | @content pending offset line lines regions hrole rest ih =>
    obtain ⟨mine, others, rfl, hstarts, hothers⟩ := ih
    refine ⟨mine, others, rfl, by rw [hstarts, map_start_receive], fun r hr => ?_⟩
    have := hothers r hr
    omega

/-- A region that is pending is among those that are closed. -/
theorem exists_mem_of_pending (h : Pairing f pending offset lines regions) {p : OpenRegion}
    (hp : p ∈ pending) : ∃ r ∈ regions, r.span.start = p.start := by
  obtain ⟨mine, others, rfl, hstarts, -⟩ := h.exists_eq_append
  have hmem : p.start ∈ mine.map fun r => r.span.start := hstarts ▸ List.mem_map_of_mem hp
  obtain ⟨r, hr, hstart⟩ := List.mem_map.1 hmem
  exact ⟨r, List.mem_append_left _ hr, hstart⟩

/-- The region that has been pending longest is closed before every other one. -/
theorem exists_oldest {oldest : OpenRegion} (h : Pairing f (oldest :: pending) offset lines regions) :
    ∃ r others, regions = r :: others ∧ r.span.start = oldest.start ∧
      (∀ p ∈ pending, ∃ s ∈ others, s.span.start = p.start) ∧
      ∀ s ∈ others, r.span.stop < s.span.stop := by
  obtain ⟨mine, others, rfl, hstarts, -⟩ := h.exists_eq_append
  cases mine with
  | nil => simp at hstarts
  | cons r mine =>
    simp only [List.map_cons, List.cons.injEq] at hstarts
    refine ⟨r, mine ++ others, rfl, hstarts.1, fun p hp => ?_, ?_⟩
    · have hmem : p.start ∈ mine.map fun r => r.span.start := hstarts.2 ▸ List.mem_map_of_mem hp
      obtain ⟨s, hs, hstart⟩ := List.mem_map.1 hmem
      exact ⟨s, List.mem_append_left _ hs, hstart⟩
    · exact (List.pairwise_cons.1 h.stops_ascend).1

end Pairing

/-! ## Shape -/

/-- The lines of an open region are an opening line and content of its family. -/
structure OpenRegion.IsShaped (f : Family) (o : OpenRegion) : Prop where
  opens : Marker.classify f o.startMarker = .ok (.opening o.config)
  start_one : '\n' ∉ o.startMarker
  body_content : ∀ l ∈ o.bodyLines, f.role l = .content
  body_one : ∀ l ∈ o.bodyLines, '\n' ∉ l

/-- The lines of a region start with an opening line and end with a closing line of its family. -/
structure Region.IsMarked (r : Region) : Prop where
  opens : Marker.classify r.family r.startMarker = .ok (.opening r.config)
  closes : r.family.role r.endMarker = .closes
  start_one : '\n' ∉ r.startMarker
  end_one : '\n' ∉ r.endMarker

/-- Between its markers a region has content of its family, and its text is all these lines joined. -/
structure Region.IsShaped (r : Region) : Prop extends r.IsMarked where
  body_content : ∀ l ∈ r.bodyLines, r.family.role l = .content
  body_one : ∀ l ∈ r.bodyLines, '\n' ∉ l
  text : r.fullText = Region.textOf r.startMarker r.bodyLines r.endMarker

theorem OpenRegion.IsShaped.push {o : OpenRegion} (h : o.IsShaped f) (hrole : f.role line = .content)
    (hone : '\n' ∉ line) : (o.push line).IsShaped f where
  opens := h.opens
  start_one := h.start_one
  body_content l hl := by
    rcases List.mem_append.1 hl with hl | hl
    · exact h.body_content l hl
    · rw [List.mem_singleton.1 hl]
      exact hrole
  body_one l hl := by
    rcases List.mem_append.1 hl with hl | hl
    · exact h.body_one l hl
    · rw [List.mem_singleton.1 hl]
      exact hone

theorem OpenRegion.IsShaped.close {o : OpenRegion} (h : o.IsShaped f) (hrole : f.role line = .closes)
    (hone : '\n' ∉ line) (stop : Nat) : (o.close f line stop).IsShaped where
  opens := h.opens
  closes := hrole
  body_content := h.body_content
  start_one := h.start_one
  end_one := hone
  body_one := h.body_one
  text := rfl

namespace Pairing

theorem family_eq (h : Pairing f pending offset lines regions) : ∀ r ∈ regions, r.family = f := by
  induction h with
  | done => simp
  | opens _ _ ih | content _ _ ih => exact ih
  | closes hrole rest ih =>
    intro r hr
    rcases List.mem_cons.1 hr with rfl | hr
    · rfl
    · exact ih r hr

/-- Every region has the shape of a region if those pending have it. -/
theorem isShaped (h : Pairing f pending offset lines regions) (hlines : ∀ l ∈ lines, '\n' ∉ l)
    (hpending : ∀ p ∈ pending, p.IsShaped f) : ∀ r ∈ regions, r.IsShaped := by
  induction h with
  | done => simp
  | @opens pending offset line lines regions config hkind rest ih =>
    refine ih (fun l hl => hlines l (List.mem_cons_of_mem _ hl)) fun p hp => ?_
    rcases List.mem_append.1 hp with hp | hp
    · exact hpending p hp
    · rw [List.mem_singleton.1 hp]
      exact ⟨hkind, hlines line List.mem_cons_self, by simp, by simp⟩
  | @closes oldest pending offset line lines regions hrole rest ih =>
    intro r hr
    rcases List.mem_cons.1 hr with rfl | hr
    · exact (hpending oldest List.mem_cons_self).close hrole (hlines line List.mem_cons_self) _
    · exact ih (fun l hl => hlines l (List.mem_cons_of_mem _ hl))
        (fun p hp => hpending p (List.mem_cons_of_mem _ hp)) r hr
  | @content pending offset line lines regions hrole rest ih =>
    refine ih (fun l hl => hlines l (List.mem_cons_of_mem _ hl)) fun p hp => ?_
    -- only a region that is open alone gathers the line
    match pending, hp with
    | [only], hp =>
      rw [List.mem_singleton.1 hp]
      exact (hpending only List.mem_cons_self).push hrole (hlines line List.mem_cons_self)
    | _ :: _ :: _, hp => exact hpending p hp

end Pairing

/-- Every region of a document has the shape of a region. -/
theorem isShaped_of_scan {document : Text} (h : scan f document = .ok regions) :
    ∀ r ∈ regions, r.IsShaped :=
  (scan_eq_ok_iff.1 h).isShaped (fun _ hl => Text.lineFeed_not_mem_of_mem_lines hl) (by simp)

theorem family_of_scan {document : Text} (h : scan f document = .ok regions) :
    ∀ r ∈ regions, r.family = f :=
  (scan_eq_ok_iff.1 h).family_eq

/-! ## All families -/

/-- A document is accepted if the scan of every family accepts it, and then its regions are those of
    the families. -/
theorem scanAll_eq_ok_iff {document : Text} :
    scanAll document = .ok regions ↔
      ∃ found : Family → List Region, (∀ f, scan f document = .ok (found f)) ∧
        regions = Family.all.flatMap found := by
  constructor
  · intro h
    rw [scanAll] at h
    cases hall : Family.all.mapM fun f => scan f document with
    | error e => rw [hall] at h; cases h
    | ok all =>
      rw [hall] at h
      cases h
      have hforall := mapM_eq_ok_iff.1 hall
      -- every family is scanned once, so what its scan returned can be named by the family
      obtain ⟨found, hfound⟩ : ∃ found : Family → List Region,
          ∀ f regions, scan f document = .ok regions → found f = regions :=
        ⟨fun f => (scan f document).toOption.getD [], fun f regions h => by simp only [h]; rfl⟩
      have hmap : Family.all.map found = all := by
        have heq := List.forall₂_map_left_iff.2 (hforall.imp hfound)
        rwa [List.forall₂_eq_eq_eq] at heq
      subst hmap
      rw [List.forall₂_map_right_iff] at hforall
      exact ⟨found, fun f => List.forall₂_same.1 hforall f f.mem_all, (List.flatMap_def ..).symm⟩
  · rintro ⟨found, hfound, rfl⟩
    have hall : Family.all.mapM (fun f => scan f document) = .ok (Family.all.map found) := by
      rw [mapM_eq_ok_iff, List.forall₂_map_right_iff]
      exact List.forall₂_same.2 fun f _ => hfound f
    rw [scanAll, hall, List.flatMap_def]
    rfl

end ListeningCharts
