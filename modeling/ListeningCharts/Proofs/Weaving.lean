import ListeningCharts.Proofs.Lines
import ListeningCharts.Proofs.Markers

/-! # Texts woven into lines

    A line of a record is fixed text with given texts in it, and a given text may hold anything: line
    feeds, and markers behind them. What such a line is to a family is told from the given texts
    alone.

    * A text is **blunt** if no marker ends in it or goes through it: put behind a line, with
      whatever more behind it, it leaves the line what it was (`IsBlunt`). Every text is blunt that
      starts with a character that no marker prefix holds.
    * If the fixed texts are blunt and of one line, then the lines of the whole are content exactly
      if every line of a given text is, but for its first one (`isContent_weave_iff`).
-/

namespace ListeningCharts

variable {f : Family}

/-! ## Lines -/

namespace Text

/-- The last line of a text goes on in the text that follows. -/
theorem lines_append_of_snoc {s t : Text} {front : List Text} {last : Text}
    (hs : s.lines = front ++ [last]) : (s ++ t).lines = front ++ (last ++ t).lines := by
  obtain ⟨first, back, ht⟩ := List.exists_cons_of_ne_nil (lines_ne_nil t)
  have hlast : '\n' ∉ last := lineFeed_not_mem_of_mem_lines (t := s) (by simp [hs])
  have hone : last.lines = [] ++ [last] := lines_of_not_mem hlast
  rw [lines_append hs ht, lines_append hone ht, List.nil_append]

/-- A line in front of a text goes on in its first line. -/
theorem lines_append_of_one {line t first : Text} {back : List Text} (hline : '\n' ∉ line)
    (ht : t.lines = first :: back) : (line ++ t).lines = (line ++ first) :: back := by
  have hone : line.lines = [] ++ [line] := lines_of_not_mem hline
  rw [lines_append hone ht, List.nil_append]

/-- The lines of joined texts are those of each of them. -/
theorem lines_joinLines_eq_flatMap {ts : List Text} (hne : ts ≠ []) :
    (joinLines ts).lines = ts.flatMap lines := by
  obtain ⟨t, ts, rfl⟩ := List.exists_cons_of_ne_nil hne
  induction ts generalizing t with
  | nil => simp [joinLines]
  | cons u ts ih =>
    obtain ⟨front, last, hfront⟩ := exists_lines_eq_append t
    have hlast : '\n' ∉ last := lineFeed_not_mem_of_mem_lines (t := t) (by simp [hfront])
    rw [joinLines_cons_of_ne_nil t (List.cons_ne_nil u ts), lines_append_of_snoc hfront,
      lines_append_lineFeed hlast, ih u (List.cons_ne_nil u ts)]
    simp [hfront]

end Text

/-! ## Blunt texts -/

/-- A text that leaves every line what it is when it is put behind it, whatever follows. -/
def IsBlunt (t : Text) : Prop :=
  ∀ (f : Family) (line rest : Text), f.role (line ++ (t ++ rest)) = f.role line

theorem Family.role_congr {line line' : Text}
    (hstart : f.startPrefix <+: line ↔ f.startPrefix <+: line')
    (hend : f.endPrefix <+: line ↔ f.endPrefix <+: line') : f.role line = f.role line' := by
  rw [← role_eq_opens_iff, ← role_eq_opens_iff] at hstart
  rw [← role_eq_closes_iff, ← role_eq_closes_iff] at hend
  revert hstart hend
  cases f.role line <;> cases f.role line' <;> simp

/-- A prefix does not go past a character that it does not hold. -/
theorem isPrefix_append_cons_iff {p line rest : Text} {c : Char} (hc : c ∉ p) :
    p <+: line ++ c :: rest ↔ p <+: line := by
  constructor
  · intro h
    rcases List.prefix_or_prefix_of_prefix h (List.prefix_append line (c :: rest)) with h' | h'
    · exact h'
    · -- otherwise the character stands where the prefix goes on
      obtain ⟨more, rfl⟩ := h'
      cases more with
      | nil => simp
      | cons d more =>
        rw [List.prefix_append_right_inj] at h
        obtain ⟨rfl, -⟩ := List.cons_prefix_cons.1 h
        exact absurd (by simp) hc
  · exact fun h => h.trans (List.prefix_append line _)

/-- A text is blunt that starts with a character that no marker prefix holds. -/
theorem isBlunt_cons {c : Char}
    (hc : ∀ f ∈ Family.all, c ∉ f.startPrefix ∧ c ∉ f.endPrefix) (t : Text) : IsBlunt (c :: t) := by
  intro f line rest
  obtain ⟨hstart, hend⟩ := hc f f.mem_all
  exact Family.role_congr (isPrefix_append_cons_iff hstart) (isPrefix_append_cons_iff hend)

/-- A tag is blunt: every marker prefix starts like a comment, and holds no other angle bracket. -/
theorem isBlunt_tag {c : Char} (hc : c ≠ '!') (t : Text) : IsBlunt ('<' :: c :: t) := by
  have hprefixes : ∀ f ∈ Family.all, ∀ p ∈ [f.startPrefix, f.endPrefix],
      ∃ q, p = '<' :: '!' :: q ∧ '<' ∉ q := by
    intro f _
    cases f <;> simp only [List.forall_mem_cons] <;>
      exact ⟨⟨_, rfl, by decide⟩, ⟨_, rfl, by decide⟩, by simp⟩
  have hiff : ∀ p q line rest : Text, p = '<' :: '!' :: q → '<' ∉ q →
      (p <+: line ++ ('<' :: c :: t ++ rest) ↔ p <+: line) := by
    rintro p q line rest rfl hq
    cases line with
    | nil =>
      simp only [List.nil_append, List.cons_append, List.prefix_nil, reduceCtorEq, iff_false]
      intro h
      exact hc (List.cons_prefix_cons.1 (List.cons_prefix_cons.1 h).2).1.symm
    | cons d line =>
      have hq' : '<' ∉ '!' :: q := by simp [hq]
      rw [List.cons_append, List.cons_append, List.cons_prefix_cons, List.cons_prefix_cons,
        isPrefix_append_cons_iff hq']
  intro f line rest
  obtain ⟨q, hstart, hq⟩ := hprefixes f f.mem_all f.startPrefix (by simp)
  obtain ⟨q', hend, hq'⟩ := hprefixes f f.mem_all f.endPrefix (by simp)
  exact Family.role_congr (hiff _ q line rest hstart hq) (hiff _ q' line rest hend hq')

/-! ## Content -/

/-- All lines of a text are content for a family. -/
def Family.IsContent (f : Family) (t : Text) : Prop := ∀ l ∈ t.lines, f.role l = .content

/-- All lines of a text but the first one are content for a family. -/
def Family.IsContentBelow (f : Family) (t : Text) : Prop := ∀ l ∈ t.lines.tail, f.role l = .content

theorem Family.isContentBelow_of_one (f : Family) {t : Text} (h : '\n' ∉ t) : f.IsContentBelow t := by
  unfold IsContentBelow
  rw [Text.lines_of_not_mem h]
  simp

theorem Family.isContent_joinLines (f : Family) (ts : List Text) :
    f.IsContent (Text.joinLines ts) ↔ ∀ t ∈ ts, f.IsContent t := by
  unfold IsContent
  cases ts with
  | nil => cases f <;> simp [Text.joinLines] <;> decide
  | cons t ts => rw [Text.lines_joinLines_eq_flatMap (List.cons_ne_nil t ts), List.forall_mem_flatMap]

/-! ## Weaving -/

/-- A fixed text, and given texts each with the fixed text behind it. -/
def weave : Text → List (Text × Text) → Text
  | fixed, [] => fixed
  | fixed, (given, behind) :: parts => fixed ++ given ++ weave behind parts

/-- A fixed text of one line that is blunt. -/
structure IsFixed (t : Text) : Prop where
  blunt : IsBlunt t
  one : '\n' ∉ t

/-- Characters that no marker prefix holds. -/
def bluntHeads : List Char := ['>', ']', ')']

theorem not_mem_of_mem_bluntHeads : ∀ c ∈ bluntHeads, ∀ f ∈ Family.all,
    c ∉ f.startPrefix ∧ c ∉ f.endPrefix := by
  unfold bluntHeads
  simp only [List.forall_mem_cons]
  exact ⟨by decide, by decide, by decide, by simp⟩

theorem isFixed_of_head {t : Text} {c : Char} (ht : t.head? = some c) (hc : c ∈ bluntHeads)
    (hone : '\n' ∉ t) : IsFixed t := by
  obtain ⟨rest, rfl⟩ := List.head?_eq_some_iff.1 ht
  exact ⟨isBlunt_cons (not_mem_of_mem_bluntHeads c hc) rest, hone⟩

/-- What is woven behind a line leaves it what it is. -/
theorem content_append_weave_iff {fixed : Text} (hfixed : IsFixed fixed)
    {parts : List (Text × Text)} (hparts : ∀ part ∈ parts, IsFixed part.2) {line : Text}
    (hline : '\n' ∉ line) :
    f.IsContent (line ++ weave fixed parts) ↔
      f.role line = .content ∧ ∀ t ∈ parts.map Prod.fst, f.IsContentBelow t := by
  unfold Family.IsContent
  induction parts generalizing fixed line with
  | nil =>
    have hone : '\n' ∉ line ++ fixed := by simp [hline, hfixed.one]
    have hrole := hfixed.blunt f line []
    rw [List.append_nil] at hrole
    simp [weave, Text.lines_of_not_mem hone, hrole]
  | cons part parts ih =>
    obtain ⟨given, behind⟩ := part
    obtain ⟨hbehind, hparts⟩ := List.forall_mem_cons.1 hparts
    obtain ⟨first, back, hgiven⟩ := List.exists_cons_of_ne_nil (Text.lines_ne_nil given)
    have hone : '\n' ∉ line ++ fixed := by simp [hline, hfixed.one]
    have hlines : (line ++ fixed ++ given).lines = (line ++ fixed ++ first) :: back :=
      Text.lines_append_of_one hone hgiven
    have hrole : f.role (line ++ fixed ++ first) = f.role line := by
      rw [List.append_assoc]
      exact hfixed.blunt f line first
    -- the last of these lines goes on in what is woven behind the given text
    obtain ⟨front, last, hlast⟩ := Text.exists_lines_eq_append (line ++ fixed ++ given)
    have hlastOne : '\n' ∉ last := by
      apply Text.lineFeed_not_mem_of_mem_lines (t := line ++ fixed ++ given)
      rw [hlast]
      exact List.mem_append_right _ List.mem_cons_self
    have hwhole : line ++ weave fixed ((given, behind) :: parts) =
        (line ++ fixed ++ given) ++ weave behind parts := by simp [weave]
    have hsplit : (∀ l ∈ front, f.role l = .content) ∧ f.role last = .content ↔
        f.role line = .content ∧ f.IsContentBelow given := by
      have hsame := congrArg (fun ls => ∀ l ∈ ls, f.role l = .content) (hlast.symm.trans hlines)
      simp only [List.forall_mem_append, List.forall_mem_cons, List.not_mem_nil, false_imp_iff,
        implies_true, and_true, hrole] at hsame
      unfold Family.IsContentBelow
      rw [hgiven, List.tail_cons, hsame]
    rw [hwhole, Text.lines_append_of_snoc hlast, List.forall_mem_append,
      ih hbehind hparts hlastOne, ← and_assoc, hsplit, List.map_cons, List.forall_mem_cons, and_assoc]

/-- **A woven text is content if its given texts are**: all its lines are content exactly if the
    lines of the given texts are, but for the first one of each. -/
theorem isContent_weave_iff {fixed : Text} (hfixed : IsFixed fixed) {parts : List (Text × Text)}
    (hparts : ∀ part ∈ parts, IsFixed part.2) :
    f.IsContent (weave fixed parts) ↔ ∀ t ∈ parts.map Prod.fst, f.IsContentBelow t := by
  have hempty : f.role [] = .content := by cases f <;> rfl
  have h := @content_append_weave_iff f fixed hfixed parts hparts [] List.not_mem_nil
  rw [List.nil_append] at h
  rw [h]
  exact and_iff_right hempty

end ListeningCharts
