import ListeningCharts.Proofs.InPlace
import ListeningCharts.Proofs.Stretches
import Mathlib.Data.List.Sort

/-! # Splices from the back

    Regions that a document holds at spans apart from each other are spliced one after the other, the
    last of the document first. The outcome is the document with all spans replaced at once, in
    whatever order the regions are listed and whatever is put there (`splices_at_once`).

    * **Order**: the entries are sorted by descending start (`latestFirst_eq_insertionSort`).
    * **Steps**: what was spliced so far changed the document behind a place only, so up to that place
      it still is as it was (`splicedBy_of_behind`). A region whose turn it is lies in front of the
      place, and is found at its span, even if its text occurs elsewhere.
-/

namespace ListeningCharts

/-! ## The order of the splices -/

section Order

variable {α : Type}

/-- The region of one entry does not start before that of another. -/
def StartsNoEarlier (a b : Region × α) : Prop := b.1.span.start ≤ a.1.span.start

instance : DecidableRel (StartsNoEarlier (α := α)) := fun a b =>
  inferInstanceAs (Decidable (b.1.span.start ≤ a.1.span.start))

instance : IsTrans (Region × α) StartsNoEarlier := ⟨fun _ _ _ hab hbc => Nat.le_trans hbc hab⟩

instance : Std.Total (StartsNoEarlier (α := α)) := ⟨fun a b => Nat.le_total b.1.span.start a.1.span.start⟩

theorem insertLatestFirst_eq_orderedInsert (entry : Region × α) (entries : List (Region × α)) :
    insertLatestFirst entry entries = entries.orderedInsert StartsNoEarlier entry := by
  induction entries with
  | nil => rfl
  | cons other rest ih =>
    rw [insertLatestFirst, List.orderedInsert_cons, ih]
    rfl

/-- The entries are sorted by descending start, those that start at the same byte as they were. -/
theorem latestFirst_eq_insertionSort (entries : List (Region × α)) :
    latestFirst entries = entries.insertionSort StartsNoEarlier := by
  induction entries with
  | nil => rfl
  | cons entry entries ih =>
    show insertLatestFirst entry (latestFirst entries) = _
    rw [ih, insertLatestFirst_eq_orderedInsert, List.insertionSort_cons]

theorem latestFirst_perm (entries : List (Region × α)) : (latestFirst entries).Perm entries := by
  rw [latestFirst_eq_insertionSort]
  exact List.perm_insertionSort StartsNoEarlier entries

end Order

/-! ## Regions apart from each other -/

/-- Each region has a span that is not empty, at which the document holds its text, and the spans are
    pairwise disjoint. -/
structure HeldApart (document : Text) (entries : List (Region × Text)) : Prop where
  held : ∀ entry ∈ entries,
    document.slice? entry.1.span.start entry.1.span.stop = some entry.1.fullText
  nonempty : ∀ entry ∈ entries, entry.1.span.start < entry.1.span.stop
  disjoint : entries.Pairwise fun a b => a.1.span.Disjoint b.1.span

namespace HeldApart

variable {document : Text} {entries : List (Region × Text)}

theorem isInPlace (h : HeldApart document entries) :
    ∀ entry ∈ entries, entry.1.isInPlace document = true := by
  intro entry hentry
  rw [Region.isInPlace, beq_iff_eq]
  exact h.held entry hentry

/-- It does not matter in which order the regions are listed. -/
theorem perm {others : List (Region × Text)} (h : HeldApart document entries)
    (hperm : entries.Perm others) : HeldApart document others where
  held entry hentry := h.held entry (hperm.mem_iff.2 hentry)
  nonempty entry hentry := h.nonempty entry (hperm.mem_iff.2 hentry)
  disjoint := (hperm.pairwise_iff fun hab => Or.symm hab).1 h.disjoint

theorem tail {entry : Region × Text} (h : HeldApart document (entry :: entries)) :
    HeldApart document entries where
  held other hother := h.held other (List.mem_cons_of_mem _ hother)
  nonempty other hother := h.nonempty other (List.mem_cons_of_mem _ hother)
  disjoint := (List.pairwise_cons.1 h.disjoint).2

/-- What stands behind all regions does not matter to them. -/
theorem of_front {front back : Text} (h : HeldApart (front ++ back) entries)
    (hle : ∀ entry ∈ entries, entry.1.span.stop ≤ front.byteLength) (other : Text) :
    HeldApart (front ++ other) entries := by
  refine ⟨?_, h.nonempty, h.disjoint⟩
  intro entry hentry
  have hplace : entry.1.isInPlace (front ++ other) = true :=
    Region.isInPlace_of_front (h.isInPlace entry hentry) (hle entry hentry)
  rwa [Region.isInPlace, beq_iff_eq] at hplace

/-- In descending order, each region ends before those in front of it in the list start. -/
theorem descends (h : HeldApart document entries) :
    (latestFirst entries).Pairwise fun a b => b.1.span.stop ≤ a.1.span.start := by
  have hsorted : (latestFirst entries).Pairwise StartsNoEarlier := by
    rw [latestFirst_eq_insertionSort]
    exact List.pairwise_insertionSort StartsNoEarlier entries
  have happart := h.perm (latestFirst_perm entries).symm
  apply (hsorted.and happart.disjoint).imp_of_mem
  intro a b ha _ hab
  obtain ⟨hstart, hdisjoint⟩ := hab
  have hlt := happart.nonempty a ha
  simp only [StartsNoEarlier] at hstart
  simp only [Span.Disjoint] at hdisjoint
  omega

end HeldApart

/-! ## Replacing spans -/

/-- The spans of some regions with what is put there. -/
def editsOf (entries : List (Region × Text)) : List (Span × Text) :=
  entries.map fun entry => (entry.1.span, entry.2)

/-- Spans in descending order start at different bytes. -/
theorem starts_differ {entries : List (Region × Text)}
    (hdescend : entries.Pairwise fun a b => b.1.span.stop ≤ a.1.span.start)
    (hne : ∀ entry ∈ entries, entry.1.span.start < entry.1.span.stop) :
    (editsOf entries).Pairwise fun a b => a.1.start ≠ b.1.start := by
  apply List.pairwise_map.2
  apply hdescend.imp_of_mem
  intro a b _ hb hle
  have hlt := hne b hb
  show a.1.span.start ≠ b.1.span.start
  omega

namespace Text

variable {edits : List (Span × Text)} {pos : Nat} {t : Text}

theorem replaceFrom_nil (pos : Nat) (t : Text) : replaceFrom [] pos t = t :=
  replaceFrom_of_spares (by simp)

/-- A span behind a text has no part in it. -/
theorem replaceFrom_cons_of_behind {edit : Span × Text} (h : pos + t.byteLength ≤ edit.1.start) :
    replaceFrom (edit :: edits) pos t = replaceFrom edits pos t := by
  induction t generalizing pos with
  | nil => rfl
  | cons c t ih =>
    have hc := c.utf8Size_pos
    rw [byteLength_cons] at h
    have hstart : (edit.1.start == pos) = false := by
      rw [beq_eq_false_iff_ne]
      omega
    have hcovers : edit.1.covers pos = false := by
      rw [← Bool.not_eq_true, Span.covers_iff]
      omega
    rw [replaceFrom, replaceFrom, ih (by omega), List.filter_cons_of_neg (by simp [hstart])]
    unfold coveredBy
    rw [List.map_cons, List.any_cons, hcovers, Bool.false_or]

/-- Of edits with different starts, those at one byte are the same in every order. -/
theorem filter_start_perm {others : List (Span × Text)} (hperm : edits.Perm others)
    (hstarts : edits.Pairwise fun a b => a.1.start ≠ b.1.start) (pos : Nat) :
    edits.filter (fun edit => edit.1.start == pos) =
      others.filter fun edit => edit.1.start == pos := by
  have hfilter := hperm.filter fun edit : Span × Text => edit.1.start == pos
  have hat : ∀ edit ∈ edits.filter (fun edit => edit.1.start == pos), edit.1.start = pos := by
    intro edit hedit
    exact eq_of_beq (List.mem_filter.1 hedit).2
  have hstarts := hstarts.filter fun edit : Span × Text => edit.1.start == pos
  generalize edits.filter (fun edit => edit.1.start == pos) = found at hfilter hat hstarts
  -- there is at most one edit at the byte
  match found with
  | [] => exact hfilter.nil_eq
  | [edit] => exact hfilter.singleton_eq
  | a :: b :: found =>
    have hne := List.rel_of_pairwise_cons hstarts List.mem_cons_self
    have ha := hat a (by simp)
    have hb := hat b (by simp)
    exact absurd (ha.trans hb.symm) hne

/-- Edits with different starts may be listed in any order. -/
theorem replaceFrom_perm {others : List (Span × Text)} (hperm : edits.Perm others)
    (hstarts : edits.Pairwise fun a b => a.1.start ≠ b.1.start) (pos : Nat) (t : Text) :
    replaceFrom edits pos t = replaceFrom others pos t := by
  induction t generalizing pos with
  | nil => rfl
  | cons c t ih =>
    have hcovered : coveredBy (edits.map Prod.fst) pos = coveredBy (others.map Prod.fst) pos := by
      unfold coveredBy
      exact (hperm.map Prod.fst).any_eq
    rw [replaceFrom, replaceFrom, ih, filter_start_perm hperm hstarts, hcovered]

end Text

/-! ## The splices -/

variable {document front back : Text} {entries : List (Region × Text)} {entry : Region × Text}

/-- The first of the spans to be replaced is the last of the text: what is put there stands between
    the text in front of it, in which the others are still to be replaced, and the text behind. -/
theorem replaceFrom_of_last {before after : Text} {pos : Nat}
    (hstart : entry.1.span.start = pos + before.byteLength)
    (hstop : entry.1.span.stop = entry.1.span.start + entry.1.fullText.byteLength)
    (hne : entry.1.span.start < entry.1.span.stop)
    (hrest : ∀ other ∈ entries, other.1.span.start < other.1.span.stop ∧
      other.1.span.stop ≤ entry.1.span.start)
    (hnodup : (editsOf (entry :: entries)).Nodup) :
    Text.replaceFrom (editsOf (entry :: entries)) pos (before ++ entry.1.fullText ++ after) =
      Text.replaceFrom (editsOf entries) pos (before ++ entry.2 ++ after) := by
  -- behind the start of the span nothing else is replaced
  have hspares : ∀ first last, entry.1.span.start ≤ first →
      ∀ edit ∈ editsOf entries, edit.1.Spares first last := by
    intro first last hfirst edit hedit
    obtain ⟨other, hother, rfl⟩ := List.mem_map.1 hedit
    obtain ⟨hlt, hle⟩ := hrest other hother
    exact Span.spares_of_stop_le hlt (Nat.le_trans hle hfirst)
  have hfront : Text.replaceFrom (editsOf (entry :: entries)) pos before =
      Text.replaceFrom (editsOf entries) pos before :=
    Text.replaceFrom_cons_of_behind (Nat.le_of_eq hstart.symm)
  have hspan : entry.1.span =
      ⟨pos + before.byteLength, pos + before.byteLength + entry.1.fullText.byteLength⟩ := by
    rw [← hstart, ← hstop]
  have hhere : Text.replaceFrom (editsOf (entry :: entries)) (pos + before.byteLength)
      entry.1.fullText = entry.2 := by
    have htext : entry.1.fullText ≠ [] := by
      intro hempty
      rw [hstop, hempty, Text.byteLength_nil] at hne
      omega
    apply Text.replaceFrom_of_edit htext hnodup
    · rw [← hspan]
      exact List.mem_cons_self
    · intro edit hedit
      rcases List.mem_cons.1 hedit with rfl | hedit
      · left
        show (entry.1.span, entry.2) = _
        rw [hspan]
      · exact .inr (hspares _ _ (by omega) edit hedit)
  have hafter : Text.replaceFrom (editsOf (entry :: entries)) entry.1.span.stop after = after := by
    apply Text.replaceFrom_of_spares
    intro edit hedit
    rcases List.mem_cons.1 hedit with rfl | hedit
    · exact Span.spares_of_stop_le hne (Nat.le_refl _)
    · exact hspares _ _ (by omega) edit hedit
  have hnew : Text.replaceFrom (editsOf entries) (pos + before.byteLength) (entry.2 ++ after) =
      entry.2 ++ after := Text.replaceFrom_of_spares (hspares _ _ (by omega))
  rw [List.append_assoc, List.append_assoc, Text.replaceFrom_append, Text.replaceFrom_append,
    Text.replaceFrom_append _ pos before, hfront, hhere, hnew, ← hstart, ← hstop, hafter]

/-- A region that stands behind some text is spliced behind it. -/
theorem Region.exists_splice_behind {r : Region} (hplace : r.isInPlace (front ++ back) = true)
    (hbehind : front.byteLength ≤ r.span.start) :
    ∃ inner after, back = inner ++ r.fullText ++ after ∧
      r.span.start = front.byteLength + inner.byteLength ∧
      r.span.stop = r.span.start + r.fullText.byteLength ∧
      ∀ text, r.splice (front ++ back) text = front ++ inner ++ (text ++ after) := by
  obtain ⟨before, after, hdocument, hstart, hstop⟩ := isInPlace_iff.1 hplace
  have hprefix : front <+: before := by
    apply Text.prefix_of_byteLength_le (u := front ++ back)
    · exact List.prefix_append front back
    · rw [hdocument, List.append_assoc]
      exact List.prefix_append before _
    · rw [← hstart]
      exact hbehind
  obtain ⟨inner, rfl⟩ := hprefix
  refine ⟨inner, after, ?_, ?_, ?_, ?_⟩
  · rw [List.append_assoc, List.append_assoc] at hdocument
    rw [List.append_assoc]
    exact List.append_cancel_left hdocument
  · rw [hstart, Text.byteLength_append]
  · rw [hstop, hstart]
  · intro text
    rw [hdocument, splice_of_eq_append hstart hstop, List.append_assoc]

/-- **Splices in descending order replace spans at once**: if all of them lie behind some text, that
    text stays, and behind it the spans are replaced. -/
theorem splicedBy_of_behind (hheld : HeldApart (front ++ back) entries)
    (hdescend : entries.Pairwise fun a b => b.1.span.stop ≤ a.1.span.start)
    (hbehind : ∀ entry ∈ entries, front.byteLength ≤ entry.1.span.start) :
    splicedBy (front ++ back) entries =
      front ++ Text.replaceFrom (editsOf entries) front.byteLength back := by
  -- on the entries: a splice leaves the others held, for they stand in front of it
  induction entries generalizing back with
  | nil =>
    show front ++ back = front ++ Text.replaceFrom [] front.byteLength back
    rw [Text.replaceFrom_nil]
  | cons entry entries ih =>
    have hstarts := starts_differ hdescend hheld.nonempty
    obtain ⟨hlast, hdescend⟩ := List.pairwise_cons.1 hdescend
    obtain ⟨hhere, hbehind⟩ := List.forall_mem_cons.1 hbehind
    obtain ⟨inner, after, rfl, hstart, hstop, hsplice⟩ :=
      Region.exists_splice_behind (hheld.isInPlace entry List.mem_cons_self) hhere
    have hfront : (front ++ inner).byteLength = entry.1.span.start := by
      rw [Text.byteLength_append, hstart]
    have hnext : HeldApart (front ++ (inner ++ entry.2 ++ after)) entries := by
      have hothers := hheld.tail
      rw [List.append_assoc inner, ← List.append_assoc front] at hothers ⊢
      apply hothers.of_front
      rw [hfront]
      exact hlast
    have hnodup : (editsOf (entry :: entries)).Nodup :=
      hstarts.imp fun hne heq => hne (congrArg (fun edit => edit.1.start) heq)
    show splicedBy (entry.1.splice _ entry.2) entries = _
    rw [hsplice, List.append_assoc, ← List.append_assoc inner, ih hnext hdescend hbehind,
      replaceFrom_of_last hstart hstop (hheld.nonempty entry List.mem_cons_self)
        (fun other hother => ⟨hheld.tail.nonempty other hother, hlast other hother⟩) hnodup]

/-- **Splicing from the back replaces all spans at once**, for regions that a document holds at
    disjoint spans, none of them empty, in any order and with any replacements.

    * The splices are made in descending order of their starts, each once.
    * The outcome is the document with every span replaced.
    * Whenever it is the turn of a region, the document is as it was up to the end of the span, and
      what was replaced before stands behind it. The splice goes by the span, and what it leaves
      alone is the text in front of that span and the text behind it. -/
theorem splices_at_once (document : Text) (entries : List (Region × Text))
    (hheld : ∀ entry ∈ entries,
      document.slice? entry.1.span.start entry.1.span.stop = some entry.1.fullText)
    (hne : ∀ entry ∈ entries, entry.1.span.start < entry.1.span.stop)
    (hdisjoint : entries.Pairwise fun a b => a.1.span.Disjoint b.1.span) :
    (latestFirst entries).Perm entries ∧
    ((latestFirst entries).Pairwise fun a b => b.1.span.start < a.1.span.start) ∧
    spliceAll document entries = document.replaceSpans (editsOf entries) ∧
    ∀ (done rest : List (Region × Text)) (entry : Region × Text),
      latestFirst entries = done ++ entry :: rest →
      ∃ before after, document = before ++ entry.1.fullText ++ after ∧
        entry.1.span.start = before.byteLength ∧
        splicedBy document done = before ++ entry.1.fullText ++
          Text.replaceFrom (editsOf done) entry.1.span.stop after ∧
        entry.1.surroundings? (splicedBy document done) =
          some (before, Text.replaceFrom (editsOf done) entry.1.span.stop after) := by
  have hapart : HeldApart document entries := ⟨hheld, hne, hdisjoint⟩
  have hperm := latestFirst_perm entries
  have hsorted := hapart.perm hperm.symm
  have hdescend := hapart.descends
  have hstarts : (latestFirst entries).Pairwise fun a b => b.1.span.start < a.1.span.start := by
    apply hdescend.imp_of_mem
    intro a b _ hb hle
    have hlt := hsorted.nonempty b hb
    omega
  refine ⟨hperm, hstarts, ?_, ?_⟩
  · have hheld : HeldApart ([] ++ document) (latestFirst entries) := hsorted
    have hrun := splicedBy_of_behind hheld hdescend (by simp)
    have hdistinct := starts_differ hdescend hsorted.nonempty
    rw [spliceAll_eq_splicedBy]
    show splicedBy ([] ++ document) _ = Text.replaceFrom _ 0 document
    rw [hrun]
    exact Text.replaceFrom_perm (hperm.map _) hdistinct 0 document
  · intro done rest entry hentries
    rw [hentries] at hsorted hdescend
    have hplace := hsorted.isInPlace entry (by simp)
    obtain ⟨before, after, rfl, hstart, hstop⟩ := Region.isInPlace_iff.1 hplace
    obtain ⟨hdone, -, hcross⟩ := List.pairwise_append.1 hdescend
    obtain ⟨hapartDone, -, -⟩ := List.pairwise_append.1 hsorted.disjoint
    have hfront : (before ++ entry.1.fullText).byteLength = entry.1.span.stop := by
      rw [Text.byteLength_append, hstop]
    have hheldDone : HeldApart (before ++ entry.1.fullText ++ after) done :=
      ⟨fun other hother => hsorted.held other (List.mem_append_left _ hother),
        fun other hother => hsorted.nonempty other (List.mem_append_left _ hother), hapartDone⟩
    have hrun := splicedBy_of_behind hheldDone hdone fun other hother => by
      rw [hfront]
      exact hcross other hother entry List.mem_cons_self
    rw [hfront] at hrun
    refine ⟨before, after, rfl, hstart, hrun, ?_⟩
    rw [hrun]
    exact Region.surroundings_of_eq_append rfl hstart hstop

/-- Two regions with the same text, listed in the order of the document. What is put in the place of
    the second one holds that text, too. -/
theorem splices_at_once_identical :
    let first : Region := {
      family := .tracks, startMarker := [], endMarker := [], bodyLines := [], fullText := "ab",
      span := ⟨3, 5⟩, config := {} }
    let second : Region := { first with span := ⟨6, 8⟩ }
    let entries : List (Region × Text) := [(first, "x"), (second, "ab, ab")]
    spliceAll "€ab ab." entries = "€x ab, ab." ∧
      (first.surroundings? (splicedBy "€ab ab." [(second, "ab, ab")])).isSome := by
  intro first second entries
  obtain ⟨-, -, hall, hturn⟩ := splices_at_once "€ab ab." entries (by decide) (by decide) (by decide)
  obtain ⟨_, _, -, -, -, hsurroundings⟩ := hturn [(second, "ab, ab")] [] (first, "x") (by decide)
  constructor
  · rw [hall]
    decide
  · rw [hsurroundings]
    rfl

end ListeningCharts
