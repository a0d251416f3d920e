import ListeningCharts.Text.Search

/-! # Lines of a text

    A text is cut into lines at its line feeds, and the lines joined again are the text. This
    module says how the two directions behave when texts are put together:

    * **Joining**: a stretch of lines inside a document stands after the lines in front of it,
      each ended by a line feed (`unlines`), and before the lines behind it, each with a line
      feed in front (`onlines`).
    * **Cutting**: the lines around an occurrence of some joined lines are the lines of the
      document, the first and the last of them perhaps longer at one side
      (`lines_around_joinLines`).
-/

namespace ListeningCharts.Text

/-! ## Lines without line feeds -/

/-- A text that is split at a character leaves pieces without it. -/
theorem not_mem_of_mem_splitOn {c : Char} {t piece : Text} (h : piece ∈ t.splitOn c) : c ∉ piece := by
  induction t generalizing piece with
  | nil =>
    have hnil : piece = [] := by simpa [List.splitOn_nil] using h
    simp [hnil]
  | cons d t ih =>
    -- the character in front starts a new piece, any other one goes to the first piece
    rw [List.splitOn_cons_eq_if_modifyHead] at h
    obtain ⟨first, others, hcut⟩ := List.exists_cons_of_ne_nil (List.splitOn_ne_nil c t)
    have ih' : ∀ l ∈ first :: others, c ∉ l := fun l hl => ih (by rw [hcut]; exact hl)
    split at h
    · rcases List.mem_cons.1 h with rfl | h
      · simp
      · exact ih' piece (hcut ▸ h)
    · next hd =>
      rw [hcut, List.modifyHead_cons] at h
      rcases List.mem_cons.1 h with rfl | h
      · have hfirst := ih' first List.mem_cons_self
        have hne : ¬ c = d := fun heq => hd (by simp [← heq])
        simp [hfirst, hne]
      · exact ih' piece (List.mem_cons_of_mem _ h)

/-- A character that is in no piece, nor between them, is not in the joined text. -/
theorem not_mem_intercalate {c : Char} {separator : Text} {pieces : List Text}
    (hseparator : c ∉ separator) (hpieces : ∀ piece ∈ pieces, c ∉ piece) :
    c ∉ separator.intercalate pieces := by
  induction pieces with
  | nil => simp [List.intercalate]
  | cons piece pieces ih =>
    obtain ⟨hpiece, hrest⟩ := List.forall_mem_cons.1 hpieces
    cases pieces with
    | nil => simpa [List.intercalate] using hpiece
    | cons next pieces =>
      rw [List.intercalate_cons_cons]
      simp [hpiece, hseparator, ih hrest]

/-- No line of a text holds a line feed. -/
theorem lineFeed_not_mem_of_mem_lines {t line : Text} (h : line ∈ t.lines) : '\n' ∉ line :=
  not_mem_of_mem_splitOn h

theorem lines_ne_nil (t : Text) : t.lines ≠ [] := List.splitOn_ne_nil '\n' t

/-- Lines without line feeds, joined and cut again, are the same lines. -/
theorem lines_joinLines {ls : List Text} (hne : ls ≠ []) (hls : ∀ l ∈ ls, '\n' ∉ l) :
    (joinLines ls).lines = ls :=
  List.splitOn_intercalate '\n' hls hne

/-- A text without a line feed is one line. -/
theorem lines_of_not_mem {t : Text} (h : '\n' ∉ t) : t.lines = [t] := List.splitOn_eq_singleton h

/-- A line feed that follows a line ends it. -/
theorem lines_append_lineFeed {line : Text} (h : '\n' ∉ line) (t : Text) :
    (line ++ '\n' :: t).lines = line :: t.lines :=
  List.splitOn_append_cons_self_of_not_mem h t

/-! ## Lines with their line feeds -/

/-- The lines with a line feed after each of them. -/
def unlines (ls : List Text) : Text := ls.flatMap fun l => l ++ ['\n']

/-- The lines with a line feed before each of them. -/
def onlines (ls : List Text) : Text := ls.flatMap fun l => '\n' :: l

@[simp] theorem unlines_nil : unlines [] = [] := rfl

@[simp] theorem unlines_cons (l : Text) (ls : List Text) :
    unlines (l :: ls) = l ++ '\n' :: unlines ls := by
  simp [unlines]

@[simp] theorem unlines_append (ls ms : List Text) :
    unlines (ls ++ ms) = unlines ls ++ unlines ms := by
  simp [unlines]

@[simp] theorem onlines_nil : onlines [] = [] := rfl

@[simp] theorem onlines_cons (l : Text) (ls : List Text) :
    onlines (l :: ls) = '\n' :: l ++ onlines ls := by
  simp [onlines]

@[simp] theorem onlines_append (ls ms : List Text) :
    onlines (ls ++ ms) = onlines ls ++ onlines ms := by
  simp [onlines]

/-- The first of the joined lines has no line feed before it, every other has one. -/
theorem joinLines_cons (l : Text) (ls : List Text) : joinLines (l :: ls) = l ++ onlines ls := by
  induction ls generalizing l with
  | nil => simp [joinLines]
  | cons m ls ih =>
    have h := ih m
    simp only [joinLines] at h ⊢
    rw [List.intercalate_cons_cons, h]
    simp

/-- Joined lines, with a line feed at the end. -/
theorem joinLines_append_lineFeed {ls : List Text} (hne : ls ≠ []) :
    joinLines ls ++ ['\n'] = unlines ls := by
  obtain ⟨l, ls, rfl⟩ := List.exists_cons_of_ne_nil hne
  induction ls generalizing l with
  | nil => simp [joinLines]
  | cons m ls ih =>
    have h := ih m (by simp)
    rw [joinLines_cons] at h ⊢
    rw [unlines_cons, ← h]
    simp

theorem joinLines_cons_of_ne_nil (l : Text) {ls : List Text} (hne : ls ≠ []) :
    joinLines (l :: ls) = l ++ '\n' :: joinLines ls := by
  rw [joinLines, List.intercalate_cons_of_ne_nil hne, List.append_assoc, List.singleton_append]
  rfl

/-- A stretch of lines stands after the lines in front of it and before the lines behind it. -/
theorem joinLines_append_append (front : List Text) {mid : List Text} (hne : mid ≠ [])
    (back : List Text) :
    joinLines (front ++ mid ++ back) = unlines front ++ joinLines mid ++ onlines back := by
  induction front with
  | nil =>
    obtain ⟨l, mid, rfl⟩ := List.exists_cons_of_ne_nil hne
    simp [joinLines_cons]
  | cons k front ih =>
    have hne' : front ++ mid ++ back ≠ [] := by simp [hne]
    rw [List.cons_append, List.cons_append, joinLines_cons_of_ne_nil k hne', ih, unlines_cons]
    simp

/-! ## Sizes -/

@[simp] theorem utf8Size_lineFeed : ('\n' : Char).utf8Size = 1 := by decide

theorem byteLength_unlines_append (ls ms : List Text) :
    (unlines (ls ++ ms)).byteLength = (unlines ls).byteLength + (unlines ms).byteLength := by
  simp

theorem byteLength_unlines_cons (l : Text) (ls : List Text) :
    (unlines (l :: ls)).byteLength = l.byteLength + 1 + (unlines ls).byteLength := by
  rw [unlines_cons, byteLength_append, byteLength_cons, utf8Size_lineFeed]
  omega

/-- The offset behind one more line. -/
theorem byteLength_unlines_snoc (ls : List Text) (l : Text) :
    (unlines (ls ++ [l])).byteLength = (unlines ls).byteLength + l.byteLength + 1 := by
  rw [byteLength_unlines_append, byteLength_unlines_cons, unlines_nil, byteLength_nil]
  omega

/-- Joined lines are one byte shorter than the lines with their line feeds. -/
theorem byteLength_joinLines {ls : List Text} (hne : ls ≠ []) :
    (joinLines ls).byteLength + 1 = (unlines ls).byteLength := by
  rw [← joinLines_append_lineFeed hne]
  simp

/-! ## Lines of a text that is put together -/

/-- Where two texts meet, the last line of one and the first line of the other become one line. -/
theorem lines_append {s t : Text} {front : List Text} {last first : Text} {back : List Text}
    (hs : s.lines = front ++ [last]) (ht : t.lines = first :: back) :
    (s ++ t).lines = front ++ (last ++ first) :: back := by
  have hfront : ∀ l ∈ front ++ [last], '\n' ∉ l := fun l hl =>
    lineFeed_not_mem_of_mem_lines (t := s) (hs ▸ hl)
  have hback : ∀ l ∈ first :: back, '\n' ∉ l := fun l hl =>
    lineFeed_not_mem_of_mem_lines (t := t) (ht ▸ hl)
  have hjoin : s ++ t = joinLines (front ++ (last ++ first) :: back) := by
    -- the last line of one text and the grown line in its place stand behind the same lines
    have h1 := joinLines_append_append front (List.cons_ne_nil last []) []
    have h2 := joinLines_append_append front (List.cons_ne_nil (last ++ first) []) back
    rw [List.append_nil, ← hs, joinLines_lines] at h1
    have h3 : t = first ++ onlines back := by rw [← joinLines_cons, ← ht, joinLines_lines]
    have h4 : front ++ (last ++ first) :: back = front ++ [last ++ first] ++ back := by simp
    rw [h4, h2, h1, h3]
    simp [joinLines]
  rw [hjoin]
  refine lines_joinLines (by simp) fun l hl => ?_
  rcases List.mem_append.1 hl with hl | hl
  · exact hfront l (List.mem_append_left _ hl)
  · rcases List.mem_cons.1 hl with rfl | hl
    · have h1 := hfront last (by simp)
      have h2 := hback first (by simp)
      simp [h1, h2]
    · exact hback l (List.mem_cons_of_mem _ hl)

/-- The lines of a text around some joined lines. The first and the last of these lines may be the
    end and the start of longer ones; those between them are lines of the text. -/
theorem lines_around_joinLines {before after first last : Text} {mid : List Text}
    {front back : List Text} {head tail : Text} (hbefore : before.lines = front ++ [head])
    (hafter : after.lines = tail :: back) (hfirst : '\n' ∉ first) (hlast : '\n' ∉ last)
    (hmid : ∀ l ∈ mid, '\n' ∉ l) :
    (before ++ joinLines (first :: mid ++ [last]) ++ after).lines =
      front ++ (head ++ first) :: mid ++ (last ++ tail) :: back := by
  have hlines : (joinLines (first :: mid ++ [last])).lines = first :: mid ++ [last] := by
    refine lines_joinLines (by simp) fun l hl => ?_
    simp only [List.cons_append, List.mem_cons, List.mem_append, List.not_mem_nil, or_false] at hl
    rcases hl with rfl | hl | rfl
    · exact hfirst
    · exact hmid l hl
    · exact hlast
  have h1 := lines_append hbefore hlines
  have h2 : front ++ (head ++ first) :: (mid ++ [last]) =
      (front ++ (head ++ first) :: mid) ++ [last] := by simp
  exact lines_append (h1.trans h2) hafter

/-- The lines of a text end in a last one. -/
theorem exists_lines_eq_append (t : Text) : ∃ front last, t.lines = front ++ [last] :=
  ⟨_, _, (List.dropLast_concat_getLast (lines_ne_nil t)).symm⟩

/-- The lines of two texts with a line feed between them are the lines of both. -/
theorem lines_append_lineFeed_append (a b : Text) :
    (a ++ '\n' :: b).lines = a.lines ++ b.lines := by
  obtain ⟨front, last, hlines⟩ := exists_lines_eq_append a
  have hfeed : lines ('\n' :: b) = [] :: b.lines := lines_append_lineFeed List.not_mem_nil b
  rw [lines_append hlines hfeed, hlines, List.append_nil, List.append_assoc, List.singleton_append]

end ListeningCharts.Text
