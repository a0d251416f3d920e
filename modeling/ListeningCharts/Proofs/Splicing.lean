import ListeningCharts.Proofs.Markers
import ListeningCharts.Proofs.Places

/-! # Splices

    What a splice makes of a document, for every region, be its span reversed, out of range or inside
    a character, and be its text whatever it may.

    * **First occurrences**: what is cut off in front of an occurrence is as short as it can be
      (`Text.cutAtFirst_eq_some_iff`), and nothing is cut off exactly if there is no occurrence
      (`Text.cutAtFirst_eq_none_iff`).
    * **Cases**: a splice replaces the text of the region at its span, else at its first occurrence,
      else nowhere (`Region.Splices`, `Region.splice_eq_iff`).
    * **Steps**: cutting a document inside a character and taking more bytes from a length than it has
      would end the program. A splice does neither (`Region.spliceSteps?_eq`).
    * **Back again**: what was put into the document gives way to the text of the region once more
      (`Region.Replaces.splice_back`).
-/

namespace ListeningCharts

/-! ## First occurrences -/

namespace Text

variable {needle t before after : Text}

/-- The text is cut around an occurrence of `needle`, and nothing shorter stands in front of one. -/
structure IsFirstCut (needle t before after : Text) : Prop where
  eq_append : t = before ++ needle ++ after
  shortest : ∀ p s, t = p ++ needle ++ s → before.length ≤ p.length

/-- There is only one first cut. -/
theorem IsFirstCut.unique {before' after' : Text} (h : IsFirstCut needle t before after)
    (h' : IsFirstCut needle t before' after') : before = before' ∧ after = after' := by
  have hlength : before.length = before'.length :=
    Nat.le_antisymm (h.shortest _ _ h'.eq_append) (h'.shortest _ _ h.eq_append)
  have heq := h.eq_append.symm.trans h'.eq_append
  rw [List.append_assoc, List.append_assoc] at heq
  obtain ⟨hbefore, hrest⟩ := List.append_inj heq hlength
  exact ⟨hbefore, List.append_cancel_left hrest⟩

theorem cutAtFirst_cons (c : Char) (t : Text) :
    cutAtFirst needle (c :: t) =
      match needle.isPrefixOf? (c :: t) with
      | some after => some ([], after)
      | none => (cutAtFirst needle t).map fun (before, after) => (c :: before, after) := rfl

/-- **No cut is found exactly if there is no occurrence**. -/
theorem cutAtFirst_eq_none_iff : cutAtFirst needle t = none ↔ ¬ needle <:+: t := by
  induction t with
  | nil =>
    rw [cutAtFirst, Option.map_eq_none_iff, Marker.isPrefixOf?_eq_none_iff, List.infix_nil,
      List.prefix_nil]
  | cons c t ih =>
    rw [cutAtFirst_cons, List.infix_cons_iff, not_or]
    cases hhere : needle.isPrefixOf? (c :: t) with
    | some rest =>
      have hleads : needle <+: c :: t := ⟨rest, (Marker.isPrefixOf?_eq_some_iff.1 hhere).symm⟩
      constructor
      · intro h
        cases h
      · exact fun h => absurd hleads h.1
    | none =>
      have hleads := Marker.isPrefixOf?_eq_none_iff.1 hhere
      rw [Option.map_eq_none_iff, ih]
      exact ⟨fun h => ⟨hleads, h⟩, And.right⟩

/-- A cut that is found is the first one. -/
theorem isFirstCut_of_cutAtFirst (h : cutAtFirst needle t = some (before, after)) :
    IsFirstCut needle t before after := by
  refine ⟨eq_append_of_cutAtFirst h, ?_⟩
  induction t generalizing before with
  | nil =>
    obtain ⟨_, -, heq⟩ := Option.map_eq_some_iff.1 h
    cases heq
    exact fun p _ _ => Nat.zero_le p.length
  | cons c t ih =>
    rw [cutAtFirst_cons] at h
    cases hhere : needle.isPrefixOf? (c :: t) with
    | some rest =>
      rw [hhere] at h
      cases h
      exact fun p _ _ => Nat.zero_le p.length
    | none =>
      rw [hhere] at h
      obtain ⟨⟨front, rest⟩, hcut, heq⟩ := Option.map_eq_some_iff.1 h
      cases heq
      intro p s hp
      cases p with
      | nil =>
        -- the needle does not stand at the start
        have hleads : needle <+: c :: t := ⟨s, hp.symm⟩
        exact absurd hleads (Marker.isPrefixOf?_eq_none_iff.1 hhere)
      | cons d p =>
        have htail : t = p ++ needle ++ s := (List.cons.inj hp).2
        exact Nat.succ_le_succ (ih hcut p s htail)

/-- **The cut that is found is the first one**. -/
theorem cutAtFirst_eq_some_iff :
    cutAtFirst needle t = some (before, after) ↔ IsFirstCut needle t before after := by
  refine ⟨isFirstCut_of_cutAtFirst, fun h => ?_⟩
  cases hcut : cutAtFirst needle t with
  | none => exact absurd ⟨before, after, h.eq_append.symm⟩ (cutAtFirst_eq_none_iff.1 hcut)
  | some cut =>
    obtain ⟨front, rest⟩ := cut
    obtain ⟨rfl, rfl⟩ := (isFirstCut_of_cutAtFirst hcut).unique h
    rfl

end Text

namespace Region

variable {r : Region} {document replacement result : Text}

/-! ## Cases -/

/-- The document holds the text of the region at its span, between these surroundings. -/
structure IsHeld (r : Region) (document before after : Text) : Prop where
  eq_append : document = before ++ r.fullText ++ after
  start : r.span.start = before.byteLength
  stop : r.span.stop = before.byteLength + r.fullText.byteLength

/-- The text of the region that gives way stands between these surroundings: at the span of the
    region, or else at its first occurrence. -/
inductive Replaces (r : Region) (document before after : Text) : Prop where
  | held (h : r.IsHeld document before after)
  | moved (hmoved : ∀ before after, ¬ r.IsHeld document before after) (hne : r.fullText ≠ [])
      (h : Text.IsFirstCut r.fullText document before after)

/-- What a splice makes of a document: one occurrence of the region's text gives way, or nothing
    does. -/
inductive Splices (r : Region) (document replacement : Text) : Text → Prop where
  | replaced {before after : Text} (h : r.Replaces document before after) :
      Splices r document replacement (before ++ replacement ++ after)
  | unchanged (hmoved : ∀ before after, ¬ r.IsHeld document before after)
      (hnone : r.fullText = [] ∨ ¬ r.fullText <:+: document) :
      Splices r document replacement document

theorem isInPlace_iff_isHeld :
    r.isInPlace document = true ↔ ∃ before after, r.IsHeld document before after := by
  rw [isInPlace_iff]
  refine exists_congr fun before => exists_congr fun after => ?_
  exact ⟨fun ⟨heq, hstart, hstop⟩ => ⟨heq, hstart, hstop⟩, fun h => ⟨h.eq_append, h.start, h.stop⟩⟩

theorem IsHeld.surroundings {before after : Text} (h : r.IsHeld document before after) :
    r.surroundings? document = some (before, after) :=
  surroundings_of_eq_append h.eq_append h.start h.stop

theorem surroundings_of_moved (h : ∀ before after, ¬ r.IsHeld document before after) :
    r.surroundings? document = none := by
  have hplace : r.isInPlace document = false := by
    rw [← Bool.not_eq_true, isInPlace_iff_isHeld]
    rintro ⟨before, after, hheld⟩
    exact h before after hheld
  rw [surroundings?, hplace, if_neg Bool.false_ne_true]

/-- A splice of a region that is not held looks for its text. -/
theorem splice_of_moved (h : ∀ before after, ¬ r.IsHeld document before after) (replacement : Text) :
    r.splice document replacement = document.replaceFirst r.fullText replacement := by
  rw [splice, surroundings_of_moved h]

theorem Replaces.splice_eq {before after : Text} (h : r.Replaces document before after)
    (replacement : Text) : r.splice document replacement = before ++ replacement ++ after := by
  cases h with
  | held h => rw [splice, h.surroundings]
  | moved hmoved hne h =>
    have hempty : r.fullText.isEmpty = false := by simpa using hne
    rw [splice_of_moved hmoved, Text.replaceFirst, hempty, Text.cutAtFirst_eq_some_iff.2 h]
    rfl

/-- **What a splice makes of a document**. -/
theorem splices_splice (r : Region) (document replacement : Text) :
    r.Splices document replacement (r.splice document replacement) := by
  by_cases hheld : ∃ before after, r.IsHeld document before after
  · obtain ⟨before, after, h⟩ := hheld
    have hreplaces : r.Replaces document before after := .held h
    rw [hreplaces.splice_eq]
    exact .replaced hreplaces
  · have hmoved : ∀ before after, ¬ r.IsHeld document before after :=
      fun before after h => hheld ⟨before, after, h⟩
    by_cases hempty : r.fullText = []
    · rw [splice_of_moved hmoved, Text.replaceFirst, hempty]
      exact .unchanged hmoved (.inl hempty)
    · cases hcut : Text.cutAtFirst r.fullText document with
      | some cut =>
        have hreplaces : r.Replaces document cut.1 cut.2 :=
          .moved hmoved hempty (Text.cutAtFirst_eq_some_iff.1 hcut)
        rw [hreplaces.splice_eq]
        exact .replaced hreplaces
      | none =>
        have hsame : r.splice document replacement = document := by
          rw [splice_of_moved hmoved, Text.replaceFirst, hcut]
          exact ite_self document
        rw [hsame]
        exact .unchanged hmoved (.inr (Text.cutAtFirst_eq_none_iff.1 hcut))

/-- The cases exclude one another. -/
theorem Splices.eq (h : r.Splices document replacement result) :
    r.splice document replacement = result := by
  cases h with
  | replaced h => exact h.splice_eq replacement
  | unchanged hmoved hnone =>
    rw [splice_of_moved hmoved, Text.replaceFirst]
    rcases hnone with hempty | hnone
    · rw [hempty]
      rfl
    · rw [Text.cutAtFirst_eq_none_iff.2 hnone]
      exact ite_self document

theorem splice_eq_iff :
    r.splice document replacement = result ↔ r.Splices document replacement result :=
  ⟨fun h => h ▸ r.splices_splice document replacement, Splices.eq⟩

theorem Replaces.eq_append {before after : Text} (h : r.Replaces document before after) :
    document = before ++ r.fullText ++ after := by
  cases h with
  | held h => exact h.eq_append
  | moved _ _ h => exact h.eq_append

/-- A splice replaces an occurrence of the region's text, or nothing. -/
theorem splice_cases (r : Region) (document replacement : Text) :
    r.splice document replacement = document ∨
      ∃ before after, document = before ++ r.fullText ++ after ∧
        r.splice document replacement = before ++ replacement ++ after := by
  have hsplices := r.splices_splice document replacement
  generalize r.splice document replacement = result at hsplices
  cases hsplices with
  | replaced h => exact .inr ⟨_, _, h.eq_append, rfl⟩
  | unchanged => exact .inl rfl

/-- A region that is replaced by its own text stays as it is. -/
theorem splice_fullText (r : Region) (document : Text) : r.splice document r.fullText = document := by
  rcases r.splice_cases document r.fullText with hsame | ⟨before, after, hdocument, hsplice⟩
  · exact hsame
  · rw [hsplice, hdocument]

/-- What was put into the document, as a region at its new place. -/
def moveTo (r : Region) (before replacement : Text) : Region :=
  { r with
    fullText := replacement
    span := ⟨before.byteLength, before.byteLength + replacement.byteLength⟩ }

/-- **A replacement that is replaced by the region's text restores the document**. -/
theorem Replaces.splice_back {before after : Text} (h : r.Replaces document before after)
    (replacement : Text) :
    (r.moveTo before replacement).splice (r.splice document replacement) r.fullText = document := by
  have hback : (r.moveTo before replacement).IsHeld (before ++ replacement ++ after) before after :=
    ⟨rfl, rfl, rfl⟩
  rw [h.splice_eq, (Replaces.held hback).splice_eq, ← h.eq_append]

/-! ## Steps -/

/-- A splice step by step: room is set aside for the result, the document is cut at both ends of the
    span, the parts are put together. There is no result if the span has more bytes than the document
    or if an end of it lies inside a character or beyond the document. A reversed span has no bytes. -/
def spliceSteps? (r : Region) (document replacement : Text) : Option Text :=
  if r.isInPlace document then do
    guard (r.span.stop - r.span.start ≤ document.byteLength)
    let (before, _) ← document.splitAtByte r.span.start
    let (_, after) ← document.splitAtByte r.span.stop
    return before ++ replacement ++ after
  else some (document.replaceFirst r.fullText replacement)

/-- **No step of a splice fails**. -/
theorem spliceSteps?_eq (r : Region) (document replacement : Text) :
    r.spliceSteps? document replacement = some (r.splice document replacement) := by
  by_cases hplace : r.isInPlace document = true
  · obtain ⟨before, after, h⟩ := isInPlace_iff_isHeld.1 hplace
    have hlength : r.span.stop - r.span.start ≤ document.byteLength := by
      rw [h.start, h.stop, h.eq_append, Text.byteLength_append, Text.byteLength_append]
      omega
    have hfront : document.splitAtByte r.span.start = some (before, r.fullText ++ after) := by
      rw [h.start, h.eq_append, List.append_assoc, Text.splitAtByte_append]
    have hback : document.splitAtByte r.span.stop = some (before ++ r.fullText, after) := by
      rw [h.stop, h.eq_append, ← Text.byteLength_append, Text.splitAtByte_append]
    have hroom : (guard (r.span.stop - r.span.start ≤ document.byteLength) : Option Unit) = some () :=
      if_pos hlength
    have hreplaces : r.Replaces document before after := .held h
    rw [spliceSteps?, if_pos hplace, hreplaces.splice_eq, hroom, hfront, hback]
    rfl
  · have hmoved : ∀ before after, ¬ r.IsHeld document before after := fun before after h =>
      hplace (isInPlace_iff_isHeld.2 ⟨before, after, h⟩)
    rw [spliceSteps?, if_neg hplace, splice_of_moved hmoved]

end Region

/-- **A splice replaces one occurrence and never fails**, for every document, every region and every
    replacement.

    * None of its steps fails.
    * If the document holds the text of the region at its span, the replacement stands there instead;
      else, if the text is not empty and occurs, it stands in the place of the first occurrence; else
      the document is unchanged. Nothing else is a result.
    * With its own text in its place, nothing changes.
    * Where a replacement was put, the text of the region put back restores the document. -/
theorem splice_replaces_one (r : Region) (document replacement : Text) :
    r.spliceSteps? document replacement = some (r.splice document replacement) ∧
    (∀ result, r.splice document replacement = result ↔ r.Splices document replacement result) ∧
    r.splice document r.fullText = document ∧
    (∀ before after, r.Replaces document before after →
      r.splice document replacement = before ++ replacement ++ after ∧
      (r.moveTo before replacement).splice (r.splice document replacement) r.fullText = document) :=
  ⟨r.spliceSteps?_eq document replacement, fun _ => Region.splice_eq_iff,
    r.splice_fullText document, fun _ _ h => ⟨h.splice_eq replacement, h.splice_back replacement⟩⟩

/-- A text of which two occurrences overlap, behind a character of three bytes: with the span at the
    second one, with a span inside that character, and with a reversed span. -/
theorem splice_replaces_one_overlapping :
    let r : Region := {
      family := .tracks, startMarker := [], endMarker := [], bodyLines := [], fullText := "aba",
      span := ⟨5, 8⟩, config := {} }
    r.splice "€ababa" "x" = "€abx" ∧
    ({ r with span := ⟨1, 4⟩ } : Region).splice "€ababa" "x" = "€xba" ∧
    ({ r with span := ⟨8, 5⟩ } : Region).splice "€ababa" "x" = "€xba" ∧
    (r.moveTo "€ab" "x").splice "€abx" "aba" = "€ababa" := by
  intro r
  have hheld : r.Replaces "€ababa" "€ab" [] := .held ⟨by decide, by decide, by decide⟩
  obtain ⟨hsplice, hback⟩ := (splice_replaces_one r "€ababa" "x").2.2.2 _ _ hheld
  have hne : ("aba" : Text) ≠ [] := by decide
  have hcut : Text.IsFirstCut "aba" "€ababa" "€" "ba" := Text.cutAtFirst_eq_some_iff.1 (by decide)
  have hfirst : ∀ span : Span, ¬ ({ r with span } : Region).isInPlace "€ababa" = true →
      ({ r with span } : Region).splice "€ababa" "x" = "€xba" := by
    intro span hplace
    have hmoved : ({ r with span } : Region).Replaces "€ababa" "€" "ba" :=
      .moved (fun before after h => hplace (Region.isInPlace_iff_isHeld.2 ⟨before, after, h⟩)) hne hcut
    exact ((splice_replaces_one _ "€ababa" "x").2.2.2 _ _ hmoved).1
  rw [hsplice] at hback
  exact ⟨hsplice, hfirst ⟨1, 4⟩ (by decide), hfirst ⟨8, 5⟩ (by decide), hback⟩

end ListeningCharts
