import ListeningCharts.Text.Basic

/-! # First occurrence

Where a text first occurs in another, and the text with that occurrence replaced.

Main statement: what `cutAtFirst` finds is an occurrence (`eq_append_of_cutAtFirst`).
-/

namespace ListeningCharts.Text

/-- The text before and the text after the first occurrence of `needle`. -/
def cutAtFirst (needle : Text) : Text → Option (Text × Text)
  | [] => (needle.isPrefixOf? []).map ([], ·)
  | c :: t =>
    match needle.isPrefixOf? (c :: t) with
    | some after => some ([], after)
    | none => (cutAtFirst needle t).map fun (before, after) => (c :: before, after)

/-- The text with the first occurrence of `needle` replaced. An empty needle occurs nowhere. -/
def replaceFirst (t needle replacement : Text) : Text :=
  if needle.isEmpty then t
  else
    match cutAtFirst needle t with
    | some (before, after) => before ++ replacement ++ after
    | none => t

theorem isPrefixOf?_nil (t : Text) : ([] : Text).isPrefixOf? t = some t := rfl

theorem isPrefixOf?_cons_nil (c : Char) (needle : Text) : (c :: needle).isPrefixOf? [] = none := rfl

theorem isPrefixOf?_cons_cons (c d : Char) (needle t : Text) :
    (c :: needle).isPrefixOf? (d :: t) = if c == d then needle.isPrefixOf? t else none := rfl

theorem eq_append_of_isPrefixOf? {needle t after : Text} (h : needle.isPrefixOf? t = some after) :
    t = needle ++ after := by
  induction needle generalizing t with
  | nil => simp_all [isPrefixOf?_nil]
  | cons c needle ih =>
    cases t with
    | nil => simp [isPrefixOf?_cons_nil] at h
    | cons d t =>
      rw [isPrefixOf?_cons_cons] at h
      split at h
      · next hcd => rw [ih h, eq_of_beq hcd]; rfl
      · simp at h

theorem eq_append_of_cutAtFirst {needle t before after : Text}
    (h : cutAtFirst needle t = some (before, after)) : t = before ++ needle ++ after := by
  induction t generalizing before with
  | nil =>
    obtain ⟨a, ha, heq⟩ := Option.map_eq_some_iff.1 h
    simp only [Prod.mk.injEq] at heq
    obtain ⟨rfl, rfl⟩ := heq
    exact eq_append_of_isPrefixOf? ha
  | cons c t ih =>
    rw [cutAtFirst] at h
    split at h
    · next a ha =>
      simp only [Option.some.injEq, Prod.mk.injEq] at h
      obtain ⟨rfl, rfl⟩ := h
      exact eq_append_of_isPrefixOf? ha
    · obtain ⟨⟨b, a⟩, hb, heq⟩ := Option.map_eq_some_iff.1 h
      simp only [Prod.mk.injEq] at heq
      obtain ⟨rfl, rfl⟩ := heq
      rw [ih hb]
      simp

end ListeningCharts.Text
