import ListeningCharts.Splice

/-! # Places of a region

    A splice looks for the text of a region at its span first. This module says when it is found there
    and what is done then.

    * A region is **in place** if the document holds its text from the first byte of its span to the
      last (`Region.isInPlace_iff`). Only then a splice goes by the span
      (`Region.isSome_surroundings`).
    * A region in place stays there while the document changes behind its span
      (`Region.isInPlace_of_front`).
-/

namespace ListeningCharts

/-- Of two starts of a text, the one with no more bytes is a start of the other. -/
theorem Text.prefix_of_byteLength_le {s t u : Text} (hs : s <+: u) (ht : t <+: u)
    (h : s.byteLength ≤ t.byteLength) : s <+: t := by
  rcases List.prefix_or_prefix_of_prefix hs ht with hst | hts
  · exact hst
  · -- nothing is left of the first one behind the second, since it has no more bytes
    obtain ⟨more, rfl⟩ := hts
    rw [Text.byteLength_append] at h
    cases more with
    | nil => exact (List.append_nil t).symm ▸ List.prefix_rfl
    | cons c more =>
      have hc := c.utf8Size_pos
      rw [Text.byteLength_cons] at h
      omega

namespace Region

variable {r : Region} {document before after : Text}

theorem isInPlace_iff : r.isInPlace document = true ↔
    ∃ before after, document = before ++ r.fullText ++ after ∧
      r.span.start = before.byteLength ∧
      r.span.stop = before.byteLength + r.fullText.byteLength := by
  rw [isInPlace, beq_iff_eq]
  exact Text.slice?_eq_some_iff

/-- The surroundings of a region in place are what stands around its text. -/
theorem surroundings_of_eq_append (hdocument : document = before ++ r.fullText ++ after)
    (hstart : r.span.start = before.byteLength)
    (hstop : r.span.stop = before.byteLength + r.fullText.byteLength) :
    r.surroundings? document = some (before, after) := by
  have hplace : r.isInPlace document = true :=
    isInPlace_iff.2 ⟨before, after, hdocument, hstart, hstop⟩
  have hfront := Text.splitAtByte_append before (r.fullText ++ after)
  have hback := Text.splitAtByte_append (before ++ r.fullText) after
  rw [← List.append_assoc, ← hdocument, ← hstart] at hfront
  rw [Text.byteLength_append, ← hdocument, ← hstop] at hback
  rw [surroundings?, if_pos hplace, hfront, hback]
  rfl

/-- A splice goes by the span exactly if the region is in place. -/
theorem isSome_surroundings (r : Region) (document : Text) :
    (r.surroundings? document).isSome = r.isInPlace document := by
  cases hplace : r.isInPlace document with
  | true =>
    obtain ⟨before, after, hdocument, hstart, hstop⟩ := isInPlace_iff.1 hplace
    rw [surroundings_of_eq_append hdocument hstart hstop]
    rfl
  | false => rw [surroundings?, hplace, if_neg Bool.false_ne_true, Option.isSome_none]

/-- A region that the document holds at its span is replaced there. -/
theorem splice_of_eq_append (hstart : r.span.start = before.byteLength)
    (hstop : r.span.stop = before.byteLength + r.fullText.byteLength) (replacement : Text) :
    r.splice (before ++ r.fullText ++ after) replacement = before ++ replacement ++ after := by
  rw [splice, surroundings_of_eq_append rfl hstart hstop]

/-- A region stays in place while the document keeps what stands in front of the end of its span. -/
theorem isInPlace_of_front {front back back' : Text} (h : r.isInPlace (front ++ back) = true)
    (hle : r.span.stop ≤ front.byteLength) : r.isInPlace (front ++ back') = true := by
  obtain ⟨before, after, hdocument, hstart, hstop⟩ := isInPlace_iff.1 h
  have hprefix : before ++ r.fullText <+: front := by
    apply Text.prefix_of_byteLength_le (u := front ++ back)
    · rw [hdocument]
      exact List.prefix_append _ after
    · exact List.prefix_append front back
    · rw [Text.byteLength_append, ← hstop]
      exact hle
  obtain ⟨rest, rfl⟩ := hprefix
  exact isInPlace_iff.2 ⟨before, rest ++ back', by simp, hstart, hstop⟩

end Region

end ListeningCharts
