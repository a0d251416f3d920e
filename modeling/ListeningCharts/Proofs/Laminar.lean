import ListeningCharts.Proofs.Nesting
import ListeningCharts.Proofs.Outline

/-! # Laminar documents

    A document whose regions are laminar is the text of an outline (`exists_outline`). The outline is
    read off from the front: an opening line starts a region, and what is read behind it, up to the
    first line that closes an open region, is its body.

    * While the lines are read, at most one region of each family is open, since regions of one
      family are disjoint (`Readable.opened_eq_none`).
    * The first line that closes a region closes the one that was opened last, since regions of
      different families do not cross (`Readable.closes_latest`).
-/

namespace ListeningCharts

/-- Lines that can be read from byte `offset` on. At most one region of each family is open, at the
    byte that `opened` names, and the regions that are closed in the end are laminar. -/
structure Readable (opened : Family → Option Nat) (offset : Nat) (lines : List Text)
    (regions : Family → List Region) : Prop where
  pairing : ∀ f, ∃ pending, pending.map OpenRegion.start = (opened f).toList ∧
    Pairing f pending offset lines (regions f)
  one : ∀ l ∈ lines, '\n' ∉ l
  before : ∀ f a, opened f = some a → a < offset
  disjoint : ∀ f, (regions f).Pairwise fun r s => r.span.Disjoint s.span
  uncrossed : ∀ f g, f ≠ g → ∀ r ∈ regions f, ∀ s ∈ regions g, r.span.Uncrossed s.span

namespace Readable

variable {opened : Family → Option Nat} {offset : Nat} {line : Text} {lines : List Text}
  {regions : Family → List Region} {f g : Family}

theorem pairing_of_none (h : Readable opened offset lines regions) (hf : opened f = none) :
    Pairing f [] offset lines (regions f) := by
  obtain ⟨pending, hstarts, hpairing⟩ := h.pairing f
  rw [hf, Option.toList_none, List.map_eq_nil_iff] at hstarts
  rwa [hstarts] at hpairing

theorem pairing_of_some (h : Readable opened offset lines regions) {a : Nat}
    (hf : opened f = some a) : ∃ p, p.start = a ∧ Pairing f [p] offset lines (regions f) := by
  obtain ⟨pending, hstarts, hpairing⟩ := h.pairing f
  rw [hf, Option.toList_some, List.map_eq_singleton_iff] at hstarts
  obtain ⟨p, rfl, hp⟩ := hstarts
  exact ⟨p, hp, hpairing⟩

/-! ## One line -/

/-- No region of the family is open when one is opened. -/
theorem opened_eq_none (h : Readable opened offset (line :: lines) regions)
    (hrole : f.role line = .opens) : opened f = none := by
  cases hopened : opened f with
  | none => rfl
  | some a =>
    -- one region of the family is open, and another one is opened before it is closed
    obtain ⟨p, hp, hpairing⟩ := h.pairing_of_some hopened
    have hbefore := h.before f a hopened
    obtain ⟨config, hrest⟩ := hpairing.of_opens hrole
    obtain ⟨r, closed, hregions, hrstart, hpending, -⟩ := Pairing.exists_oldest hrest
    obtain ⟨n, hn, hnstart⟩ := hpending { startMarker := line, start := offset, config } (by simp)
    simp only at hnstart
    have hdisjoint := h.disjoint f
    have hstops := hpairing.offset_lt_stop
    rw [hregions] at hdisjoint hstops
    -- the two regions overlap where the second one starts
    have hrstop := hstops r List.mem_cons_self
    have hnstop := hstops n (List.mem_cons_of_mem _ hn)
    rcases (List.pairwise_cons.1 hdisjoint).1 n hn with hle | hle
    · omega
    · omega

/-- An opening line opens a region. -/
theorem of_opens (h : Readable opened offset (line :: lines) regions) (hrole : f.role line = .opens) :
    Readable (Function.update opened f (some offset)) (offset + line.byteLength + 1) lines
      regions where
  pairing g := by
    by_cases hg : g = f
    · subst hg
      obtain ⟨config, hrest⟩ := (h.pairing_of_none (h.opened_eq_none hrole)).of_opens hrole
      exact ⟨_, by simp, hrest⟩
    · obtain ⟨pending, hstarts, hpairing⟩ := h.pairing g
      have hcontent : g.role line = .content := Family.role_of_ne (by simp [hrole]) hg
      refine ⟨_, ?_, hpairing.of_content hcontent⟩
      rw [Pairing.map_start_receive, hstarts, Function.update_of_ne hg]
  one l hl := h.one l (List.mem_cons_of_mem _ hl)
  before g a ha := by
    by_cases hg : g = f
    · subst hg
      rw [Function.update_self, Option.some.injEq] at ha
      omega
    · rw [Function.update_of_ne hg] at ha
      have := h.before g a ha
      omega
  disjoint := h.disjoint
  uncrossed := h.uncrossed

/-- A closing line closes the region that is open. -/
theorem of_closes (h : Readable opened offset (line :: lines) regions)
    (hrole : f.role line = .closes) :
    opened f ≠ none ∧ ∃ regions', Readable (Function.update opened f none)
      (offset + line.byteLength + 1) lines regions' := by
  obtain ⟨pending, hstarts, hpairing⟩ := h.pairing f
  obtain ⟨oldest, others, closed, rfl, hregions, hrest⟩ := hpairing.of_closes hrole
  have hsome : (opened f).toList = oldest.start :: others.map OpenRegion.start := by
    rw [← hstarts, List.map_cons]
  -- at most one region of the family is open, so none is left
  have hothers : others = [] := by
    cases hopened : opened f with
    | none => simp [hopened] at hsome
    | some a =>
      rw [hopened, Option.toList_some, List.cons.injEq] at hsome
      exact List.map_eq_nil_iff.1 hsome.2.symm
  have hsub : ∀ g, ∀ r ∈ Function.update regions f closed g, r ∈ regions g := by
    intro g r hr
    by_cases hg : g = f
    · subst hg
      rw [Function.update_self] at hr
      rw [hregions]
      exact List.mem_cons_of_mem _ hr
    · rwa [Function.update_of_ne hg] at hr
  refine ⟨fun hnone => by simp [hnone] at hsome, Function.update regions f closed,
    ⟨fun g => ?_, fun l hl => h.one l (List.mem_cons_of_mem _ hl), fun g a ha => ?_, fun g => ?_,
      fun g k hgk r hr s hs => h.uncrossed g k hgk r (hsub g r hr) s (hsub k s hs)⟩⟩
  · by_cases hg : g = f
    · subst hg
      exact ⟨[], by simp, by rwa [Function.update_self, ← hothers]⟩
    · obtain ⟨pending, hstarts, hpairing⟩ := h.pairing g
      have hcontent : g.role line = .content := Family.role_of_ne (by simp [hrole]) hg
      refine ⟨_, ?_, by rw [Function.update_of_ne hg]; exact hpairing.of_content hcontent⟩
      rw [Pairing.map_start_receive, hstarts, Function.update_of_ne hg]
  · by_cases hg : g = f
    · subst hg
      simp at ha
    · rw [Function.update_of_ne hg] at ha
      have := h.before g a ha
      omega
  · by_cases hg : g = f
    · subst hg
      have hdisjoint := h.disjoint g
      rw [hregions] at hdisjoint
      rw [Function.update_self]
      exact (List.pairwise_cons.1 hdisjoint).2
    · rw [Function.update_of_ne hg]
      exact h.disjoint g

/-- **The region that is closed is the one that was opened last**. -/
theorem closes_latest (h : Readable opened offset (line :: lines) regions)
    (hrole : f.role line = .closes) {a b : Nat} (hf : opened f = some a) (hg : opened g = some b)
    (hfg : g ≠ f) : ¬ a < b := by
  obtain ⟨p, rfl, hp⟩ := h.pairing_of_some hf
  obtain ⟨q, rfl, hq⟩ := h.pairing_of_some hg
  exact not_lt_of_closes hp hq hrole (Family.role_of_ne (by simp [hrole]) hfg)
    (h.uncrossed f g hfg.symm) List.mem_cons_self (h.before g _ hg)

/-! ## Many lines -/

/-- An outline is read over if it has no marker of a family of which a region is open. -/
theorem of_append {o : Outline} (hvalid : o.IsValid)
    (hcontent : ∀ f, opened f ≠ none → ∀ l ∈ o.lines, f.role l = .content)
    (h : Readable opened offset (o.lines ++ lines) regions) :
    ∃ regions', Readable opened (offset + o.size) lines regions' := by
  have hstep : ∀ f, ∃ others, others.Sublist (regions f) ∧ ∃ pending,
      pending.map OpenRegion.start = (opened f).toList ∧
        Pairing f pending (offset + o.size) lines others := by
    intro f
    cases hopened : opened f with
    | none =>
      -- the regions of the family inside the outline are closed there
      have hpair := pairMarkers_eq_ok_iff.2 (h.pairing_of_none hopened)
      rw [Outline.pairMarkers_append hvalid] at hpair
      cases hrest : pairMarkers f [] (offset + o.size) lines with
      | error e =>
        rw [hrest] at hpair
        cases hpair
      | ok others =>
        rw [hrest] at hpair
        have hregions : (o.visits f offset).map Prod.snd ++ others = regions f :=
          Except.ok.inj hpair
        exact ⟨others, hregions ▸ List.sublist_append_right _ _, [], rfl,
          pairMarkers_eq_ok_iff.1 hrest⟩
    | some a =>
      -- the whole outline is content of the open region
      obtain ⟨p, hp, hpairing⟩ := h.pairing_of_some hopened
      have hpair := pairMarkers_eq_ok_iff.2 hpairing
      rw [Outline.pairMarkers_singleton_append (hcontent f (by simp [hopened]))] at hpair
      exact ⟨regions f, List.Sublist.refl _, _, by simp [hp], pairMarkers_eq_ok_iff.1 hpair⟩
  choose others hsub hpairing using hstep
  refine ⟨others, hpairing, fun l hl => h.one l (List.mem_append_right _ hl), fun f a ha => ?_,
    fun f => (h.disjoint f).sublist (hsub f), fun f g hfg r hr s hs =>
      h.uncrossed f g hfg r ((hsub f).subset hr) s ((hsub g).subset hs)⟩
  have := h.before f a ha
  omega

/-- Lines of which an outline was read: it has no marker of a family of which a region is open, and
    behind it the lines end or one of these regions is closed. -/
structure Reading (opened : Family → Option Nat) (offset : Nat) (lines : List Text) (o : Outline)
    (rest : List Text) : Prop where
  lines_eq : lines = o.lines ++ rest
  valid : o.IsValid
  located : o.IsLocated offset
  content : ∀ f, opened f ≠ none → ∀ l ∈ o.lines, f.role l = .content
  rest_cases : rest = [] ∨ ∃ line others f, rest = line :: others ∧ f.role line = .closes ∧
    opened f ≠ none

/-- A plain line in front. -/
theorem Reading.cons_line {o : Outline} {rest : List Text} (hplain : IsPlain line)
    (h : Reading opened (offset + line.byteLength + 1) lines o rest) :
    Reading opened offset (line :: lines) (.line line o) rest where
  lines_eq := by rw [h.lines_eq, Outline.lines, List.cons_append]
  valid := ⟨hplain, h.valid⟩
  located := h.located
  content f hf := List.forall_mem_cons.2 ⟨hplain.content f, h.content f hf⟩
  rest_cases := h.rest_cases

/-- Behind the body of a region stands the line that closes it. -/
theorem exists_end {body : Outline} {rest : List Text}
    (h : Readable opened offset (line :: lines) regions) (hrole : f.role line = .opens)
    (hbody : Reading (Function.update opened f (some offset)) (offset + line.byteLength + 1) lines
      body rest) :
    ∃ last others regions', rest = last :: others ∧ f.role last = .closes ∧
      Readable opened (offset + line.byteLength + 1 + body.size + last.byteLength + 1) others
        regions' := by
  have hnone := h.opened_eq_none hrole
  have hopen := h.of_opens hrole
  rw [hbody.lines_eq] at hopen
  obtain ⟨closed, hrest⟩ := of_append hbody.valid hbody.content hopen
  have hf : Function.update opened f (some offset) f = some offset := Function.update_self ..
  rcases hbody.rest_cases with rfl | ⟨last, others, g, rfl, hclose, hg⟩
  · -- the region that was opened has to be closed
    obtain ⟨p, -, hpairing⟩ := hrest.pairing_of_some hf
    cases hpairing
  -- were it another family's region, that one was opened earlier, and this one is closed first
  · have hgf : g = f := by
      by_contra hgf
      obtain ⟨a, ha⟩ := Option.ne_none_iff_exists'.1 hg
      have hlast := hrest.closes_latest hclose ha hf fun heq => hgf heq.symm
      rw [Function.update_of_ne hgf] at ha
      exact hlast (h.before g a ha)
    subst hgf
    obtain ⟨-, regions', hregions'⟩ := hrest.of_closes hclose
    rw [Function.update_idem, Function.update_eq_self_iff.2 hnone.symm] at hregions'
    exact ⟨last, others, regions', rfl, hclose, hregions'⟩

/-- A region in front. -/
theorem Reading.cons_region {body o : Outline} {last : Text} {others rest : List Text}
    (h : Readable opened offset (line :: lines) regions) (hrole : f.role line = .opens)
    (hbody : Reading (Function.update opened f (some offset)) (offset + line.byteLength + 1) lines
      body (last :: others)) (hlast : f.role last = .closes)
    (hrest : Reading opened (offset + line.byteLength + 1 + body.size + last.byteLength + 1) others
      o rest) :
    ∃ r, Reading opened offset (line :: lines) (.region r body o) rest := by
  have hnone := h.opened_eq_none hrole
  obtain ⟨config, hopening⟩ := Marker.exists_opening
    ((h.pairing_of_none hnone).isFormed line List.mem_cons_self) hrole
  have hstart_one := h.one line List.mem_cons_self
  have hend_one : '\n' ∉ last := h.one last (by simp [hbody.lines_eq])
  have hother : ∀ g, g ≠ f → g.role line = .content ∧ g.role last = .content := fun g hg =>
    ⟨Family.role_of_ne (by simp [hrole]) hg, Family.role_of_ne (by simp [hlast]) hg⟩
  have hsize : offset + line.byteLength + 1 + body.size + last.byteLength + 1 =
      offset + (Region.textOf line body.lines last).byteLength + 1 := by
    rw [Region.byteLength_textOf, Outline.size]
    omega
  rw [hsize] at hrest
  let opening : OpenRegion :=
    { startMarker := line, start := offset, config, bodyLines := body.lines }
  refine ⟨opening.close f last (offset + (Region.textOf line body.lines last).byteLength),
    ?_, ?_, ?_, ?_, hrest.rest_cases⟩
  · rw [hbody.lines_eq, hrest.lines_eq]
    simp [Outline.lines, opening, OpenRegion.close]
  · refine ⟨⟨hopening, hlast, hstart_one, hend_one⟩, ?_, hbody.valid, hrest.valid⟩
    exact hbody.content f (by rw [Function.update_self]; simp)
  · exact ⟨rfl, hbody.located, hrest.located⟩
  · intro g hg l hl
    have hgf : g ≠ f := fun heq => hg (heq ▸ hnone)
    simp only [Outline.lines, List.cons_append, List.mem_cons, List.mem_append, List.not_mem_nil,
      or_false] at hl
    rcases hl with rfl | (hl | rfl) | hl
    · exact (hother g hgf).1
    · exact hbody.content g (by rwa [Function.update_of_ne hgf]) l hl
    · exact (hother g hgf).2
    · exact hrest.content g hg l hl

/-- A plain line does not change what is open. -/
theorem of_plain (h : Readable opened offset (line :: lines) regions) (hplain : IsPlain line) :
    ∃ regions', Readable opened (offset + line.byteLength + 1) lines regions' := by
  have hvalid : (Outline.line line .nil).IsValid := ⟨hplain, trivial⟩
  have hnext := of_append hvalid (fun f _ => by simpa [Outline.lines] using hplain.content f) h
  simpa [Nat.add_assoc] using hnext

/-- **Lines that can be read are read** up to the first line that closes an open region. -/
theorem exists_reading (h : Readable opened offset lines regions) :
    ∃ o rest, Reading opened offset lines o rest := by
  -- behind a region the lines are read that its body left, so the induction is on their number
  induction hn : lines.length using Nat.strongRecOn
    generalizing lines opened offset regions with
  | _ n ih =>
    subst hn
    cases lines with
    | nil => exact ⟨.nil, [], rfl, trivial, trivial, by simp [Outline.lines], .inl rfl⟩
    | cons line lines =>
      by_cases hcontent : ∀ f : Family, f.role line = .content
      · have hplain : IsPlain line := ⟨hcontent, h.one line List.mem_cons_self⟩
        obtain ⟨regions', hnext⟩ := h.of_plain hplain
        obtain ⟨o, rest, hreading⟩ := ih lines.length (by simp) hnext rfl
        exact ⟨_, rest, hreading.cons_line hplain⟩
      · obtain ⟨f, hf⟩ := not_forall.1 hcontent
        cases hrole : f.role line with
        | content => exact absurd hrole hf
        | closes =>
          exact ⟨.nil, line :: lines, rfl, trivial, trivial, by simp [Outline.lines],
            .inr ⟨line, lines, f, rfl, hrole, (h.of_closes hrole).1⟩⟩
        | opens =>
          obtain ⟨body, rest, hbody⟩ := ih lines.length (by simp) (h.of_opens hrole) rfl
          obtain ⟨last, others, regions', rfl, hlast, hnext⟩ := h.exists_end hrole hbody
          have hlt : others.length < (line :: lines).length := by
            rw [hbody.lines_eq]
            simp
            omega
          obtain ⟨o, rest, hrest⟩ := ih others.length hlt hnext rfl
          obtain ⟨r, hreading⟩ := Reading.cons_region h hrole hbody hlast hrest
          exact ⟨_, rest, hreading⟩

end Readable

/-! ## Documents -/

/-- The regions that the scan of one family finds are disjoint, if those of one family are. -/
theorem pairwise_disjoint_of_family {document : Text} {found : Family → List Region}
    (hfound : ∀ f, scan f document = .ok (found f))
    (h : (Family.all.flatMap found).Pairwise fun r s => r.family = s.family → r.span.Disjoint s.span)
    (f : Family) : (found f).Pairwise fun r s => r.span.Disjoint s.span := by
  have hfamily := family_of_scan (hfound f)
  have hsub : (found f).Sublist (Family.all.flatMap found) := by
    rw [List.flatMap_def]
    exact List.sublist_flatten_of_mem (List.mem_map_of_mem f.mem_all)
  refine (h.sublist hsub).imp_of_mem fun hr hs h => h ?_
  rw [hfamily _ hr, hfamily _ hs]

/-- **A laminar document is the text of an outline**, with the regions that a scan finds in it. -/
theorem exists_outline {document : Text} {regions : List Region}
    (hscan : scanAll document = .ok regions) (hlaminar : Laminar regions) :
    ∃ o : Outline, o.lines = document.lines ∧ o.IsValid ∧ o.IsLocated 0 := by
  obtain ⟨found, hfound, rfl⟩ := scanAll_eq_ok_iff.1 hscan
  have hmem : ∀ f, ∀ r ∈ found f, r ∈ Family.all.flatMap found := fun f r hr =>
    List.mem_flatMap.2 ⟨f, f.mem_all, hr⟩
  have hfamily : ∀ f, ∀ r ∈ found f, r.family = f := fun f => family_of_scan (hfound f)
  have hreadable : Readable (fun _ => none) 0 document.lines found := by
    refine ⟨fun f => ⟨[], rfl, scan_eq_ok_iff.1 (hfound f)⟩,
      fun l hl => Text.lineFeed_not_mem_of_mem_lines hl, by simp,
      pairwise_disjoint_of_family hfound hlaminar.disjoint,
      fun f g hfg r hr s hs => hlaminar.uncrossed r (hmem f r hr) s (hmem g s hs) ?_⟩
    rwa [hfamily f r hr, hfamily g s hs]
  obtain ⟨o, rest, hreading⟩ := hreadable.exists_reading
  rcases hreading.rest_cases with rfl | ⟨_, _, _, -, -, hopened⟩
  · exact ⟨o, by rw [hreading.lines_eq, List.append_nil], hreading.valid, hreading.located⟩
  · exact absurd rfl hopened

end ListeningCharts
