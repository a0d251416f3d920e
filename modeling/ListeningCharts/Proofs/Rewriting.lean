import ListeningCharts.Proofs.Nesting
import ListeningCharts.Proofs.Shown
import ListeningCharts.Proofs.Splicing
import Mathlib.Logic.Relation

/-! # Rewriting

    What a splice does to the lines of a document, and what the lines keep when it is done over and
    over. All this is relative to some families, which may be one family or all of them.

    * **Accepted** lines are accepted for each of the families.
    * **One splice** takes out lines that are neutral for the families, at a place inside a region
      of the spliced one's family, and puts plain lines there (`Region.lines_splice`). This holds
      wherever the region's text is found, at its span or at its first occurrence.
    * Accepted lines stay accepted (`Accepted.rewrite`).
    * **Well nested** lines are accepted for every family, and the markers of any two families nest.
      Regions that do not cross come from such lines (`wellNested_of_scanAll`), and well nested lines
      stay well nested (`WellNested.rewrite`).
-/

namespace ListeningCharts

/-! ## Lines that stay accepted -/

/-- The lines are accepted for each of the families. -/
structure Accepted (families : List Family) (lines : List Text) : Prop where
  formed : ∀ f ∈ families, ∀ l ∈ lines, Marker.IsFormed f l
  neutral : ∀ f ∈ families, Neutral f lines

/-- The lines are accepted for every family, and the markers of any two families nest. -/
structure WellNested (lines : List Text) : Prop where
  accepted : Accepted Family.all lines
  nested : ∀ f g : Family, g ≠ f → ∃ state, nest f g 0 0 lines = some state

/-- Inside a region of one of the families, lines that are neutral for all of them give way to plain
    ones. -/
structure Rewrite (families : List Family) (lines lines' : List Text) : Prop where
  parts : ∃ f ∈ families, ∃ (front mid new back : List Text) (d : Nat),
    lines = front ++ mid ++ back ∧ lines' = front ++ new ++ back ∧
    depth f 0 front = some (d + 1) ∧ (∀ l ∈ mid, f.role l = .content) ∧
    (∀ g ∈ families, Neutral g mid) ∧ ∀ l ∈ new, IsPlain l

variable {families : List Family} {lines lines' : List Text}

theorem IsPlain.isFormed {line : Text} (h : IsPlain line) (f : Family) : Marker.IsFormed f line :=
  Marker.isFormed_of_role_ne_opens (by simp [h.content f])

theorem neutral_of_plain (h : ∀ l ∈ lines, IsPlain l) (f : Family) : Neutral f lines :=
  neutral_of_content fun l hl => (h l hl).content f

/-- Lines from which a scan returns are accepted. -/
theorem Accepted.of_scan {document : Text}
    (h : ∀ f ∈ families, ∃ regions, scan f document = .ok regions) :
    Accepted families document.lines := by
  refine ⟨fun f hf => ?_, fun f hf => ?_⟩
  all_goals
    obtain ⟨regions, hscan⟩ := h f hf
    obtain ⟨hformed, hneutral⟩ := exists_pairing_iff.1 ⟨regions, scan_eq_ok_iff.1 hscan⟩
  · exact hformed
  · exact hneutral

/-- Accepted lines are accepted. -/
theorem Accepted.exists_scan {document : Text} (h : Accepted families document.lines) {f : Family}
    (hf : f ∈ families) : ∃ regions, scan f document = .ok regions := by
  obtain ⟨regions, hregions⟩ := exists_pairing_iff.2 ⟨h.formed f hf, h.neutral f hf⟩
  exact ⟨regions, scan_eq_ok_iff.2 hregions⟩

/-- **A rewrite keeps lines accepted**. -/
theorem Accepted.rewrite (h : Accepted families lines) (hstep : Rewrite families lines lines') :
    Accepted families lines' := by
  obtain ⟨f₀, -, front, mid, new, back, d, rfl, rfl, -, -, hmid, hnew⟩ := hstep.parts
  refine ⟨fun f hf l hl => ?_, fun f hf => ?_⟩
  -- the new lines are formed since they are content
  · rw [List.append_assoc] at hl
    rcases List.mem_append.1 hl with hl | hl
    · exact h.formed f hf l (by simp [hl])
    · rcases List.mem_append.1 hl with hl | hl
      · exact (hnew l hl).isFormed f
      · exact h.formed f hf l (by simp [hl])
  · have hneutral := h.neutral f hf
    rw [Neutral, depth_append_neutral (hmid f hf)] at hneutral
    rw [Neutral, depth_append_neutral (neutral_of_plain hnew f), hneutral]

/-- **A rewrite keeps lines well nested**. -/
theorem WellNested.rewrite (h : WellNested lines) (hstep : Rewrite Family.all lines lines') :
    WellNested lines' := by
  refine ⟨h.accepted.rewrite hstep, fun f g hfg => ?_⟩
  obtain ⟨f₀, -, front, mid, new, back, d, rfl, rfl, -, -, hmid, hnew⟩ := hstep.parts
  obtain ⟨state, hstate⟩ := h.nested f g hfg
  rw [List.append_assoc, nest_append] at hstate
  obtain ⟨⟨a, b⟩, hfront, hrest⟩ := Option.bind_eq_some_iff.1 hstate
  rw [nest_append] at hrest
  obtain ⟨state', hstate', hback⟩ := Option.bind_eq_some_iff.1 hrest
  -- what is taken out left the counts as they were, and so does what is put in
  obtain rfl := nest_neutral hstate' (nest_inner_eq_zero hfront fun _ => rfl)
    (hmid f f.mem_all) (hmid g g.mem_all)
  refine ⟨state, ?_⟩
  rw [List.append_assoc, nest_append, hfront]
  show nest f g a b (new ++ back) = some state
  rw [nest_append, nest_of_content (fun l hl => (hnew l hl).content f) fun l hl =>
    (hnew l hl).content g]
  exact hback

/-- The body of a region in well nested lines is neutral for every family. -/
theorem WellNested.neutral_body {document : Text} (h : WellNested document.lines) {f : Family}
    {regions : List Region} (hscan : scan f document = .ok regions) :
    ∀ r ∈ regions, ∀ g : Family, Neutral g r.bodyLines := by
  intro r hr g
  have hpairing := scan_eq_ok_iff.1 hscan
  by_cases hfg : g = f
  · subst hfg
    have hcontent := (isShaped_of_scan hscan r hr).body_content
    rw [family_of_scan hscan r hr] at hcontent
    exact neutral_of_content hcontent
  · obtain ⟨state, hstate⟩ := h.nested f g hfg
    exact hpairing.neutral_body hfg hstate (fun _ => rfl) trivial r hr

/-- **Regions that do not cross come from well nested lines**. -/
theorem wellNested_of_scanAll {document : Text} {regions : List Region}
    (hscan : scanAll document = .ok regions) (hcross : NoCrossing regions) :
    WellNested document.lines := by
  obtain ⟨found, hfound, rfl⟩ := scanAll_eq_ok_iff.1 hscan
  have hpairing : ∀ f, Pairing f [] 0 document.lines (found f) := fun f =>
    scan_eq_ok_iff.1 (hfound f)
  refine ⟨.of_scan fun f _ => ⟨_, hfound f⟩, fun f g hfg =>
    ⟨(0, 0), nest_of_uncrossed hfg (hpairing f) (hpairing g) fun r hr s hs => ?_⟩⟩
  have hr' : r ∈ Family.all.flatMap found := List.mem_flatMap.2 ⟨f, f.mem_all, hr⟩
  have hs' : s ∈ Family.all.flatMap found := List.mem_flatMap.2 ⟨g, g.mem_all, hs⟩
  refine hcross r hr' s hs' ?_
  rw [(hpairing f).family_eq r hr, (hpairing g).family_eq s hs]
  exact fun heq => hfg heq.symm

/-! ## One splice -/

namespace Region

/-- Around an occurrence of its text, a region stands between the same lines whatever lines are in its
    body. The line behind the body closes the region. -/
theorem exists_lines_around {r : Region} (hshape : r.IsShaped) (before after : Text)
    {new : List Text} (hnew : ∀ l ∈ new, IsPlain l) :
    ∃ front last back, r.family.role last = .closes ∧
      (before ++ r.fullText ++ after).lines = front ++ r.bodyLines ++ last :: back ∧
      (before ++ textOf r.startMarker new r.endMarker ++ after).lines =
        front ++ new ++ last :: back := by
  obtain ⟨front, head, hfront⟩ := Text.exists_lines_eq_append before
  obtain ⟨tail, back, hback⟩ := List.exists_cons_of_ne_nil (Text.lines_ne_nil after)
  refine ⟨front ++ [head ++ r.startMarker], r.endMarker ++ tail, back,
    Family.role_append_of_closes hshape.closes tail, ?_, ?_⟩
  · rw [hshape.text, textOf, Text.lines_around_joinLines hfront hback hshape.start_one
      hshape.end_one hshape.body_one]
    simp
  · rw [textOf, Text.lines_around_joinLines hfront hback hshape.start_one hshape.end_one
      fun l hl => (hnew l hl).one]
    simp

/-- **One splice rewrites the lines**, or leaves the document as it is. -/
theorem lines_splice {r : Region} (hshape : r.IsShaped) (hfamily : r.family ∈ families)
    (hbody : ∀ g ∈ families, Neutral g r.bodyLines) {document : Text}
    (hneutral : Neutral r.family document.lines) {new : List Text} (hnew : ∀ l ∈ new, IsPlain l) :
    r.splice document (textOf r.startMarker new r.endMarker) = document ∨
      Rewrite families document.lines
        (r.splice document (textOf r.startMarker new r.endMarker)).lines := by
  rcases r.splice_cases document (textOf r.startMarker new r.endMarker) with
    hsame | ⟨before, after, hdocument, hsplice⟩
  · exact .inl hsame
  · right
    obtain ⟨front, last, back, hcloses, hlines, hlines'⟩ :=
      exists_lines_around hshape before after hnew
    rw [← hdocument] at hlines
    -- the closing line behind the occurrence closes a region that is open in front of it
    rw [Neutral, hlines, depth_append_neutral (hbody r.family hfamily)] at hneutral
    obtain ⟨k, hk, hrest⟩ := depth_append_eq_some hneutral
    have hpos : k ≠ 0 := fun hzero => (depth_cons_eq_some hrest).1 ⟨hcloses, hzero⟩
    obtain ⟨d, rfl⟩ := Nat.exists_eq_succ_of_ne_zero hpos
    rw [hsplice, hlines']
    exact ⟨r.family, hfamily, _, r.bodyLines, new, _, d, hlines, rfl, hk, hshape.body_content, hbody,
      hnew⟩

end Region

/-! ## Many splices -/

/-- Any number of rewrites, one after the other. -/
def Rewrites (families : List Family) : List Text → List Text → Prop :=
  Relation.ReflTransGen (Rewrite families)

theorem Accepted.rewrites (h : Accepted families lines) (hsteps : Rewrites families lines lines') :
    Accepted families lines' := by
  induction hsteps with
  | refl => exact h
  | tail _ hstep ih => exact ih.rewrite hstep

theorem WellNested.rewrites (h : WellNested lines) (hsteps : Rewrites Family.all lines lines') :
    WellNested lines' := by
  induction hsteps with
  | refl => exact h
  | tail _ hstep ih => exact ih.rewrite hstep

theorem mem_insertLatestFirst {α : Type} {entry x : Region × α} {entries : List (Region × α)} :
    x ∈ insertLatestFirst entry entries ↔ x = entry ∨ x ∈ entries := by
  induction entries with
  | nil => simp [insertLatestFirst]
  | cons other rest ih =>
    rw [insertLatestFirst]
    split
    · simp
    · rw [List.mem_cons, ih, List.mem_cons]
      exact or_left_comm

theorem mem_latestFirst {α : Type} {x : Region × α} {entries : List (Region × α)} :
    x ∈ latestFirst entries ↔ x ∈ entries := by
  induction entries with
  | nil => simp [latestFirst]
  | cons entry entries ih =>
    show x ∈ insertLatestFirst entry (latestFirst entries) ↔ _
    rw [mem_insertLatestFirst, ih, List.mem_cons]

/-- **Splicing many regions rewrites the lines**, in whatever order the regions lie. -/
theorem rewrites_spliceAll {document : Text} (h : Accepted families document.lines)
    {replacements : List (Region × Text)}
    (hreplacements : ∀ entry ∈ replacements, entry.1.IsShaped ∧ entry.1.family ∈ families ∧
      (∀ g ∈ families, Neutral g entry.1.bodyLines) ∧ ∃ new, (∀ l ∈ new, IsPlain l) ∧
        entry.2 = Region.textOf entry.1.startMarker new entry.1.endMarker) :
    Rewrites families document.lines (spliceAll document replacements).lines := by
  -- the list is generalised, since the fold changes the document with every entry
  have hfold : ∀ (entries : List (Region × Text)) (working : Text),
      (∀ entry ∈ entries, entry ∈ replacements) → Rewrites families document.lines working.lines →
        Rewrites families document.lines
          (entries.foldl (fun working entry => entry.1.splice working entry.2) working).lines := by
    intro entries
    induction entries with
    | nil => exact fun _ _ hworking => hworking
    | cons entry entries ih =>
      intro working hmem hworking
      obtain ⟨r, text⟩ := entry
      obtain ⟨hshape, hfamily, hbody, new, hnew, htext⟩ := hreplacements _ (hmem _ List.mem_cons_self)
      simp only at hshape hfamily hbody htext
      subst htext
      refine ih _ (fun entry hentry => hmem entry (List.mem_cons_of_mem _ hentry)) ?_
      have hneutral := (h.rewrites hworking).neutral r.family hfamily
      show Rewrites families document.lines (r.splice working _).lines
      rcases Region.lines_splice hshape hfamily hbody hneutral hnew with hsame | hstep
      · rw [hsame]
        exact hworking
      · exact hworking.tail hstep
  exact hfold (latestFirst replacements) document (fun _ hentry => mem_latestFirst.1 hentry)
    Relation.ReflTransGen.refl

end ListeningCharts
