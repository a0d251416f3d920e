import ListeningCharts.Proofs.Lines
import ListeningCharts.Proofs.Spans
import Mathlib.Data.List.Nodup

/-! # Stretches

    A text seen through a list of spans: what is left when the spans are deleted, and the text in
    which each span is replaced.

    * **Outside**: the maximal stretches of characters that no span covers (`Text.outside`). In any
      text they occur in order, one after the other (`Text.inOrder_outside`).
    * **Replacement**: a replacement stands where its span starts, the characters that a span covers
      are dropped, and every other character is kept (`Text.replaceSpans`).
-/

namespace ListeningCharts

/-- Whether a byte lies inside a span. -/
def Span.covers (s : Span) (pos : Nat) : Bool := s.start ≤ pos && pos < s.stop

theorem Span.covers_iff {s : Span} {pos : Nat} :
    s.covers pos = true ↔ s.start ≤ pos ∧ pos < s.stop := by
  simp [Span.covers]

/-- Whether a byte lies inside one of the spans. -/
def coveredBy (spans : List Span) (pos : Nat) : Bool := spans.any fun s => s.covers pos

theorem coveredBy_iff {spans : List Span} {pos : Nat} :
    coveredBy spans pos = true ↔ ∃ s ∈ spans, s.start ≤ pos ∧ pos < s.stop := by
  simp [coveredBy, Span.covers_iff]

namespace Text

/-! ## What is left -/

/-- The characters of a text that starts at byte `pos`, those that are covered blanked out. -/
def marks (covered : Nat → Bool) : Nat → Text → List (Option Char)
  | _, [] => []
  | pos, c :: t =>
    (if covered pos then none else some c) :: marks covered (pos + c.utf8Size) t

/-- The maximal stretches of characters between blanks. -/
def stretches (marked : List (Option Char)) : List Text :=
  ((marked.splitOn none).map List.reduceOption).filter fun t => !t.isEmpty

/-- The pieces that are left of a text when the spans are deleted from it. -/
def outside (spans : List Span) (t : Text) : List Text := stretches (marks (coveredBy spans) 0 t)

/-- The pieces occur in a text in their order, verbatim and without overlap. -/
def InOrder : List Text → Text → Prop
  | [], _ => True
  | piece :: pieces, t => ∃ front back, t = front ++ piece ++ back ∧ InOrder pieces back

variable {covered : Nat → Bool} {pos : Nat}

theorem marks_append (covered : Nat → Bool) (pos : Nat) (s t : Text) :
    marks covered pos (s ++ t) =
      marks covered pos s ++ marks covered (pos + s.byteLength) t := by
  induction s generalizing pos with
  | nil => rfl
  | cons c s ih =>
    rw [List.cons_append, marks, marks, ih, List.cons_append, byteLength_cons, Nat.add_assoc]

/-- Where nothing is covered, every character is left. -/
theorem marks_of_uncovered {t : Text}
    (h : ∀ p, pos ≤ p → p < pos + t.byteLength → covered p = false) :
    marks covered pos t = t.map some := by
  induction t generalizing pos with
  | nil => rfl
  | cons c t ih =>
    have hc := c.utf8Size_pos
    rw [byteLength_cons] at h
    have hpos : covered pos = false := h pos (Nat.le_refl _) (by omega)
    rw [marks, hpos, ih fun p hp hlt => h p (by omega) (by omega)]
    rfl

/-- Where everything is covered, no character is left. -/
theorem marks_of_covered {t : Text}
    (h : ∀ p, pos ≤ p → p < pos + t.byteLength → covered p = true) :
    marks covered pos t = t.map fun _ => none := by
  induction t generalizing pos with
  | nil => rfl
  | cons c t ih =>
    have hc := c.utf8Size_pos
    rw [byteLength_cons] at h
    have hpos : covered pos = true := h pos (Nat.le_refl _) (by omega)
    rw [marks, hpos, ih fun p hp hlt => h p (by omega) (by omega)]
    rfl

@[simp] theorem stretches_nil : stretches [] = [] := rfl

/-- A blank ends a stretch. -/
theorem stretches_append_none (front back : List (Option Char)) :
    stretches (front ++ none :: back) = stretches front ++ stretches back := by
  rw [stretches, List.splitOn_append_cons_self, List.map_append, List.filter_append]
  rfl

/-- It does not matter how many blanks there are between two characters. -/
theorem stretches_append_blanks {front blanks back : List (Option Char)}
    (h : ∀ m ∈ blanks, m = none) :
    stretches (front ++ blanks ++ none :: back) = stretches front ++ stretches back := by
  induction blanks generalizing front with
  | nil => rw [List.append_nil, stretches_append_none]
  | cons m blanks ih =>
    obtain ⟨rfl, hrest⟩ := List.forall_mem_cons.1 h
    -- the first blank ends the stretch in front, and another one behind it ends nothing
    have hfront : stretches (front ++ [none] ++ blanks ++ none :: back) =
        stretches (front ++ [none]) ++ stretches back := ih hrest
    have hblank := stretches_append_none front []
    rw [stretches_nil, List.append_nil] at hblank
    rw [hblank] at hfront
    simpa using hfront

theorem stretches_map_some (t : Text) : stretches (t.map some) = if t = [] then [] else [t] := by
  have hmem : (none : Option Char) ∉ t.map some := by simp
  have hreduce : (t.map some).reduceOption = t := by
    show (t.map some).filterMap id = t
    rw [List.filterMap_map]
    exact List.filterMap_some
  rw [stretches, List.splitOn_eq_singleton hmem, List.map_singleton, hreduce]
  cases t <;> simp

theorem InOrder.append_left {pieces : List Text} {t : Text} (front : Text) (h : InOrder pieces t) :
    InOrder pieces (front ++ t) := by
  cases pieces with
  | nil => trivial
  | cons piece pieces =>
    obtain ⟨before, back, rfl, hback⟩ := h
    exact ⟨front ++ before, back, by simp, hback⟩

/-- A stretch that is being read is the first of those that are left. -/
theorem inOrder_stretches (covered : Nat → Bool) (pos : Nat) (run t : Text) :
    InOrder (stretches (run.map some ++ marks covered pos t)) (run ++ t) := by
  induction t generalizing pos run with
  | nil =>
    rw [marks, List.append_nil, List.append_nil, stretches_map_some]
    split
    · trivial
    · exact ⟨[], [], by simp, trivial⟩
  | cons c t ih =>
    rw [marks]
    split
    · have hrest := (ih (pos + c.utf8Size) []).append_left [c]
      rw [stretches_append_none, stretches_map_some]
      split
      · next hrun =>
        rw [hrun]
        exact hrest
      · exact ⟨[], c :: t, by simp, hrest⟩
    · have hrest := ih (pos + c.utf8Size) (run ++ [c])
      simpa using hrest

/-- What is left of a text occurs in it in order. -/
theorem inOrder_outside (spans : List Span) (t : Text) : InOrder (outside spans t) t :=
  inOrder_stretches (coveredBy spans) 0 [] t

/-! ## Replacement -/

/-- A text that starts at byte `pos`, with the spans replaced. -/
def replaceFrom (edits : List (Span × Text)) : Nat → Text → Text
  | _, [] => []
  | pos, c :: t =>
    (edits.filter fun edit => edit.1.start == pos).flatMap Prod.snd ++
      (if coveredBy (edits.map Prod.fst) pos then [] else [c]) ++
      replaceFrom edits (pos + c.utf8Size) t

/-- A text with the spans replaced: each replacement stands where its span starts, in place of the
    characters that the span covers, and every other character is kept. -/
def replaceSpans (edits : List (Span × Text)) (t : Text) : Text := replaceFrom edits 0 t

variable {edits : List (Span × Text)}

theorem replaceFrom_append (edits : List (Span × Text)) (pos : Nat) (s t : Text) :
    replaceFrom edits pos (s ++ t) =
      replaceFrom edits pos s ++ replaceFrom edits (pos + s.byteLength) t := by
  induction s generalizing pos with
  | nil => rfl
  | cons c s ih =>
    rw [List.cons_append, replaceFrom, replaceFrom, ih, byteLength_cons, Nat.add_assoc]
    simp only [List.append_assoc]

/-- What is spared is kept. -/
theorem replaceFrom_of_spares {t : Text}
    (h : ∀ edit ∈ edits, edit.1.Spares pos (pos + t.byteLength)) :
    replaceFrom edits pos t = t := by
  induction t generalizing pos with
  | nil => rfl
  | cons c t ih =>
    have hc := c.utf8Size_pos
    rw [byteLength_cons] at h
    -- no edit starts at this byte, and none covers it
    have hstarts : edits.filter (fun edit => edit.1.start == pos) = [] := by
      rw [List.filter_eq_nil_iff]
      intro edit hedit
      have := h edit hedit
      simp only [Span.Spares] at this
      simp only [beq_iff_eq]
      omega
    have hcovered : coveredBy (edits.map Prod.fst) pos = false := by
      rw [← Bool.not_eq_true, coveredBy_iff]
      rintro ⟨s, hs, h1, h2⟩
      obtain ⟨edit, hedit, rfl⟩ := List.mem_map.1 hs
      have := h edit hedit
      simp only [Span.Spares] at this
      omega
    rw [replaceFrom, hstarts, hcovered,
      ih fun edit hedit => (h edit hedit).mono (Nat.le_add_right _ _) (by omega)]
    rfl

/-- A text that is covered gives way to the replacements that start in it. -/
theorem replaceFrom_of_covered {t : Text}
    (hcovered : ∀ p, pos ≤ p → p < pos + t.byteLength → coveredBy (edits.map Prod.fst) p = true)
    (hstarts : ∀ edit ∈ edits, edit.1.start < pos ∨ pos + t.byteLength ≤ edit.1.start) :
    replaceFrom edits pos t = [] := by
  induction t generalizing pos with
  | nil => rfl
  | cons c t ih =>
    have hc := c.utf8Size_pos
    rw [byteLength_cons] at hcovered hstarts
    have hnone : edits.filter (fun edit => edit.1.start == pos) = [] := by
      rw [List.filter_eq_nil_iff]
      intro edit hedit
      have := hstarts edit hedit
      simp only [beq_iff_eq]
      omega
    rw [replaceFrom, hnone, hcovered pos (Nat.le_refl _) (by omega),
      ih (fun p hp hlt => hcovered p (by omega) (by omega)) fun edit hedit => ?_]
    · rfl
    · have := hstarts edit hedit
      omega

/-- The edit that starts at a byte, if it is the only one. -/
theorem filter_start_eq {edit : Span × Text} (hnodup : edits.Nodup) (hmem : edit ∈ edits)
    (hothers : ∀ other ∈ edits, other.1.start = edit.1.start → other = edit) :
    edits.filter (fun other => other.1.start == edit.1.start) = [edit] := by
  have hcongr : edits.filter (fun other => other.1.start == edit.1.start) =
      edits.filter (· == edit) := by
    refine List.filter_congr fun other hother => ?_
    rw [Bool.eq_iff_iff, beq_iff_eq, beq_iff_eq]
    exact ⟨hothers other hother, fun heq => by rw [heq]⟩
  rw [hcongr, List.filter_beq, List.count_eq_one_of_mem hnodup hmem]
  rfl

/-- **A span that lies apart from all others is replaced**. -/
theorem replaceFrom_of_edit {t text : Text} (ht : t ≠ []) (hnodup : edits.Nodup)
    (hmem : (⟨pos, pos + t.byteLength⟩, text) ∈ edits)
    (hothers : ∀ edit ∈ edits, edit = (⟨pos, pos + t.byteLength⟩, text) ∨
      edit.1.Spares pos (pos + t.byteLength)) : replaceFrom edits pos t = text := by
  cases t with
  | nil => exact absurd rfl ht
  | cons c t =>
    have hc := c.utf8Size_pos
    rw [byteLength_cons] at hmem hothers
    have hcovered : ∀ p, pos ≤ p → p < pos + (c.utf8Size + byteLength t) →
        coveredBy (edits.map Prod.fst) p = true := fun p hp hlt =>
      coveredBy_iff.2 ⟨_, List.mem_map_of_mem hmem, hp, hlt⟩
    -- at its first byte the edit is the only one, and all others are covered by it
    have honly : ∀ other ∈ edits, other.1.start = pos →
        other = (⟨pos, pos + (c.utf8Size + byteLength t)⟩, text) := by
      intro other hother hstart
      rcases hothers other hother with heq | hspares
      · exact heq
      · simp only [Span.Spares] at hspares
        omega
    have hfilter := filter_start_eq hnodup hmem honly
    simp only at hfilter
    rw [replaceFrom, hfilter, hcovered pos (Nat.le_refl _) (by omega),
      replaceFrom_of_covered (fun p hp hlt => hcovered p (by omega) (by omega)) fun edit hedit => ?_]
    · simp
    · rcases hothers edit hedit with rfl | hspares
      · left
        show pos < _
        omega
      · simp only [Span.Spares] at hspares
        omega

end Text

end ListeningCharts
