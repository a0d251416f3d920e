import ListeningCharts.NumberFormat
import ListeningCharts.Proofs.Lines
import ListeningCharts.Text.Integer
import Mathlib.Data.List.Basic

/-! # Digit grouping

    A number in the format of a locale is its digits, cut into groups from the right: three digits
    are in the last group, as many as the locale says in every inner one, and the rest in the first.

    * A digit in front of groups of this shape leaves them in this shape: it goes to the first group,
      or it is a first group of its own if that one is full (`exists_grouping_cons`). So the groups of
      every number have the shape (`exists_grouping`).
    * A separator between pieces that do not hold it can be told from them: deleting it leaves the
      pieces (`Text.filter_intercalate`), and cutting at it finds them.
    * Main statement: how every locale writes every number (`digit_grouping`). -/

namespace ListeningCharts

/-! ## Pieces with a separator between them -/

namespace Text

variable {c : Char} {pieces : List Text}

/-- Deleting the separator leaves the pieces. -/
theorem filter_intercalate (h : ∀ piece ∈ pieces, c ∉ piece) :
    ([c].intercalate pieces).filter (· != c) = pieces.flatten := by
  have hkept : ∀ piece : Text, c ∉ piece → piece.filter (· != c) = piece := by
    intro piece hpiece
    apply List.filter_eq_self.2
    intro d hd
    have hne : d ≠ c := fun heq => hpiece (heq ▸ hd)
    simp [hne]
  induction pieces with
  | nil => simp [List.intercalate]
  | cons piece pieces ih =>
    obtain ⟨hpiece, hrest⟩ := List.forall_mem_cons.1 h
    cases pieces with
    | nil => simpa [List.intercalate] using hkept piece hpiece
    | cons next pieces =>
      have hseparator : [c].filter (· != c) = [] := by simp
      rw [List.intercalate_cons_cons, List.filter_append, List.filter_append, hkept piece hpiece,
        hseparator, ih hrest, List.flatten_cons]
      simp

/-- Two pieces or more have a separator between them. -/
theorem mem_intercalate (first next : Text) : c ∈ [c].intercalate (first :: next :: pieces) := by
  rw [List.intercalate_cons_cons]
  simp

theorem head?_intercalate {first : Text} (h : first ≠ []) :
    ([c].intercalate (first :: pieces)).head? = first.head? := by
  cases pieces with
  | nil => simp [List.intercalate]
  | cons next pieces =>
    rw [List.intercalate_cons_cons, List.append_assoc, List.head?_append_of_ne_nil _ h]

theorem getLast?_intercalate {last : Text} (h : last ≠ []) :
    ([c].intercalate (pieces ++ [last])).getLast? = last.getLast? := by
  induction pieces with
  | nil => simp [List.intercalate]
  | cons piece pieces ih =>
    have hne : pieces ++ [last] ≠ [] := by simp
    have hne' : [c].intercalate (pieces ++ [last]) ≠ [] := by
      intro hnil
      rw [hnil] at ih
      exact h (List.getLast?_eq_none_iff.1 ih.symm)
    rw [List.cons_append, List.intercalate_cons_of_ne_nil hne, List.getLast?_append_of_ne_nil _ hne',
      ih]

end Text

/-! ## Groups -/

namespace NumberFormat

/-- A first group, inner groups and a last one, as large as they are meant to be. -/
structure IsGrouping (secondary : Nat) (first : Text) (inner : List Text) (last : Text) : Prop where
  first_pos : 1 ≤ first.length
  first_le : first.length ≤ secondary
  inner_length : ∀ group ∈ inner, group.length = secondary
  last_length : last.length = 3

variable {secondary : Nat} {digits rest first last : Text} {inner : List Text}

theorem IsGrouping.length_flatten (h : IsGrouping secondary first inner last) :
    (first :: (inner ++ [last])).flatten.length = first.length + inner.length * secondary + 3 := by
  have hinner : inner.flatten.length = inner.length * secondary := by
    rw [List.length_flatten, List.map_congr_left h.inner_length, List.map_const',
      List.sum_replicate_nat]
  simp only [List.flatten_cons, List.flatten_append, List.length_append, hinner, List.flatten_nil,
    List.append_nil, h.last_length, Nat.add_assoc]

/-- No group is empty. -/
theorem IsGrouping.ne_nil (h : IsGrouping secondary first inner last) :
    ∀ group ∈ first :: (inner ++ [last]), group ≠ [] := by
  have hfirst := h.first_pos
  have hfull := h.first_le
  intro group hgroup
  apply List.ne_nil_of_length_pos
  simp only [List.mem_cons, List.mem_append, List.not_mem_nil, or_false] at hgroup
  rcases hgroup with rfl | hgroup | rfl
  · omega
  · rw [h.inner_length group hgroup]
    omega
  · rw [h.last_length]
    omega

/-- Behind whole groups a group ends where the first of them is full. -/
theorem endsGroup_iff (h : IsGrouping secondary first inner last) :
    endsGroup secondary (first.length + inner.length * secondary + 3) = true ↔
      first.length = secondary := by
  have hpos := h.first_pos
  have hle := h.first_le
  have hmod : (first.length + inner.length * secondary + 3 - 3) % secondary =
      first.length % secondary := by
    rw [Nat.add_sub_cancel, Nat.add_mul_mod_self_right]
  rw [endsGroup, hmod]
  by_cases hfull : first.length = secondary
  · rw [hfull]
    simp
  · have hsmall : first.length % secondary = first.length := Nat.mod_eq_of_lt (by omega)
    rw [hsmall]
    have hne : first.length ≠ 0 := by omega
    simp [hfull, hne]

/-- Three digits or fewer are one group. -/
theorem digitGroups_of_le (hne : digits ≠ []) (h : digits.length ≤ 3) :
    digitGroups secondary digits = [digits] := by
  induction digits with
  | nil => exact absurd rfl hne
  | cons c rest ih =>
    rw [List.length_cons] at h
    by_cases hrest : rest = []
    · subst hrest
      rfl
    · have hends : endsGroup secondary rest.length = false := by
        have hlt : ¬ 3 ≤ rest.length := by omega
        simp [endsGroup, hlt]
      rw [digitGroups, ih hrest (by omega)]
      simp [hends]

/-- **A digit in front keeps the shape of the groups.** -/
theorem exists_grouping_cons (c : Char)
    (hgroups : digitGroups secondary rest = first :: (inner ++ [last]))
    (h : IsGrouping secondary first inner last) :
    ∃ first' inner', digitGroups secondary (c :: rest) = first' :: (inner' ++ [last]) ∧
      IsGrouping secondary first' inner' last := by
  have hlength : rest.length = first.length + inner.length * secondary + 3 := by
    rw [← h.length_flatten, ← hgroups, flatten_digitGroups]
  have hpos := h.first_pos
  have hle := h.first_le
  have hstep : digitGroups secondary (c :: rest) =
      if endsGroup secondary rest.length then [c] :: first :: (inner ++ [last])
      else (c :: first) :: (inner ++ [last]) := by
    rw [digitGroups, hgroups]
  rw [hstep, hlength]
  by_cases hfull : first.length = secondary
  · -- the first group is full and becomes an inner one
    refine ⟨[c], first :: inner, ?_, ?_⟩
    · rw [if_pos ((endsGroup_iff h).2 hfull)]
      rfl
    · exact {
        first_pos := Nat.le_refl 1
        first_le := by show 1 ≤ secondary; omega
        inner_length := List.forall_mem_cons.2 ⟨hfull, h.inner_length⟩
        last_length := h.last_length }
  · refine ⟨c :: first, inner, ?_, ?_⟩
    · rw [if_neg (fun hends => hfull ((endsGroup_iff h).1 hends))]
    · exact {
        first_pos := by rw [List.length_cons]; omega
        first_le := by rw [List.length_cons]; omega
        inner_length := h.inner_length
        last_length := h.last_length }

/-- **More than three digits are cut into groups.** -/
theorem exists_grouping (hsecondary : 1 ≤ secondary) (h : 3 < digits.length) :
    ∃ first inner last, digitGroups secondary digits = first :: (inner ++ [last]) ∧
      IsGrouping secondary first inner last := by
  induction digits with
  | nil => cases h
  | cons c rest ih =>
    rw [List.length_cons] at h
    by_cases hmore : 3 < rest.length
    · obtain ⟨first, inner, last, hgroups, hgrouping⟩ := ih hmore
      obtain ⟨first', inner', hcons, hgrouping'⟩ := exists_grouping_cons c hgroups hgrouping
      exact ⟨first', inner', last, hcons, hgrouping'⟩
    · -- the three digits behind the first one are the last group
      have hthree : rest.length = 3 := by omega
      have hne : rest ≠ [] := List.ne_nil_of_length_pos (by omega)
      refine ⟨[c], [], rest, ?_, ?_⟩
      · rw [digitGroups, digitGroups_of_le hne (by omega), hthree]
        rfl
      · exact {
          first_pos := Nat.le_refl 1
          first_le := hsecondary
          inner_length := fun group hgroup => absurd hgroup List.not_mem_nil
          last_length := hthree }

/-! ## Formats of a locale -/

/-- The format groups by one character, which is no digit, and never cuts an empty group. -/
structure SeparatesBy (f : NumberFormat) (separator : Char) : Prop where
  separator_eq : f.separator = [separator]
  not_isDigit : separator.isDigit = false
  leading_pos : 1 ≤ f.leading
  secondary_pos : 1 ≤ f.secondary

/-- Every locale groups by one character. -/
theorem exists_separatesBy (tag : Text) : ∃ separator, (ofLocale tag).SeparatesBy separator := by
  have hsubtags : ∀ language region,
      ∃ separator, (ofSubtags language region).SeparatesBy separator := by
    intro language region
    unfold ofSubtags
    split
    all_goals exact ⟨_, rfl, rfl, by decide, by decide⟩
  exact hsubtags _ _

namespace SeparatesBy

variable {f : NumberFormat} {separator : Char}

theorem not_mem_ofNat (h : f.SeparatesBy separator) (n : Nat) : separator ∉ Text.ofNat n := by
  intro hmem
  have hdigit : separator.isDigit = true :=
    Nat.isDigit_of_mem_toDigits (by decide) (by decide) hmem
  rw [h.not_isDigit] at hdigit
  cases hdigit

/-- Too few digits are written as they are. -/
theorem format_of_lt {n : Nat} (hlt : (Text.ofNat n).length < 3 + f.leading) :
    f.format n = Text.ofNat n := by
  unfold format
  exact if_pos hlt

/-- **Enough digits are written in groups.** -/
theorem exists_format_eq (h : f.SeparatesBy separator) {n : Nat}
    (hle : 3 + f.leading ≤ (Text.ofNat n).length) :
    ∃ first inner last, f.format n = [separator].intercalate (first :: (inner ++ [last])) ∧
      (first :: (inner ++ [last])).flatten = Text.ofNat n ∧
      IsGrouping f.secondary first inner last := by
  have hleading := h.leading_pos
  obtain ⟨first, inner, last, hgroups, hgrouping⟩ :=
    exists_grouping h.secondary_pos (show 3 < (Text.ofNat n).length by omega)
  have hflatten := flatten_digitGroups f.secondary (Text.ofNat n)
  refine ⟨first, inner, last, ?_, hgroups ▸ hflatten, hgrouping⟩
  have hformat : f.format n = f.separator.intercalate (digitGroups f.secondary (Text.ofNat n)) := by
    unfold format
    exact if_neg (by omega)
  rw [hformat, hgroups, h.separator_eq]

/-- Groups of digits do not hold the separator. -/
theorem not_mem_of_flatten (h : f.SeparatesBy separator) {n : Nat} {groups : List Text}
    (hflatten : groups.flatten = Text.ofNat n) : ∀ group ∈ groups, separator ∉ group := by
  intro group hgroup hmem
  apply h.not_mem_ofNat n
  rw [← hflatten]
  exact List.mem_flatten.2 ⟨group, hgroup, hmem⟩

/-- Deleting the separator gives the digits. -/
theorem filter_format (h : f.SeparatesBy separator) (n : Nat) :
    (f.format n).filter (· != separator) = Text.ofNat n := by
  by_cases hlt : (Text.ofNat n).length < 3 + f.leading
  · have hone := @Text.filter_intercalate separator [Text.ofNat n]
      (List.forall_mem_singleton.2 (h.not_mem_ofNat n))
    rw [format_of_lt hlt]
    simpa [List.intercalate] using hone
  · obtain ⟨first, inner, last, hformat, hflatten, -⟩ := h.exists_format_eq (Nat.le_of_not_lt hlt)
    rw [hformat, Text.filter_intercalate (h.not_mem_of_flatten hflatten), hflatten]

theorem format_injective (h : f.SeparatesBy separator) : Function.Injective f.format := by
  intro n m heq
  apply Text.ofNat_injective
  rw [← h.filter_format n, ← h.filter_format m, heq]

/-- There is a separator exactly if there are enough digits. -/
theorem not_mem_format_iff (h : f.SeparatesBy separator) (n : Nat) :
    separator ∉ f.format n ↔ (Text.ofNat n).length < 3 + f.leading := by
  constructor
  · intro hnot
    apply Nat.lt_of_not_le
    intro hle
    obtain ⟨first, inner, last, hformat, -, -⟩ := h.exists_format_eq hle
    apply hnot
    rw [hformat]
    -- behind the first group there is another one, an inner one or the last
    cases inner with
    | nil => exact Text.mem_intercalate first last
    | cons group inner => exact Text.mem_intercalate first group
  · intro hlt
    rw [format_of_lt hlt]
    exact h.not_mem_ofNat n

/-- No piece between separators is empty, and none stands at an end. -/
theorem format_ends (h : f.SeparatesBy separator) (n : Nat) :
    (∀ group ∈ (f.format n).splitOn separator, group ≠ []) ∧
      (f.format n).head? ≠ some separator ∧ (f.format n).getLast? ≠ some separator := by
  by_cases hlt : (Text.ofNat n).length < 3 + f.leading
  · have hnot := h.not_mem_ofNat n
    have hne : Text.ofNat n ≠ [] := Nat.toDigits_ne_nil
    rw [format_of_lt hlt, List.splitOn_eq_singleton hnot]
    refine ⟨List.forall_mem_singleton.2 hne, fun hhead => ?_, fun hlast => ?_⟩
    · exact hnot (List.mem_of_mem_head? hhead)
    · exact hnot (List.mem_of_getLast? hlast)
  · obtain ⟨first, inner, last, hformat, hflatten, hgrouping⟩ :=
      h.exists_format_eq (Nat.le_of_not_lt hlt)
    have hnot := h.not_mem_of_flatten hflatten
    have hne := hgrouping.ne_nil
    have hfirst : first ≠ [] := hne first List.mem_cons_self
    have hlast : last ≠ [] := hne last (by simp)
    rw [hformat, List.splitOn_intercalate separator hnot (List.cons_ne_nil _ _)]
    refine ⟨hne, fun hhead => ?_, fun hend => ?_⟩
    · rw [Text.head?_intercalate hfirst] at hhead
      exact hnot first List.mem_cons_self (List.mem_of_mem_head? hhead)
    · rw [← List.cons_append, Text.getLast?_intercalate hlast] at hend
      exact hnot last (by simp) (List.mem_of_getLast? hend)

end SeparatesBy

end NumberFormat

open NumberFormat

/-- **Every locale groups digits by one character.** Whatever the number is:

    * Deleting the separator gives the plain digits, and numbers written alike are the same.
    * There is no separator if and only if there are fewer digits than the last three and those that
      the locale asks for in front of them.
    * Otherwise the last group has three digits, every inner one as many as the locale says, and the
      first one at least one and at most as many as an inner one.
    * No group is empty, and no separator stands at either end. -/
theorem digit_grouping (tag : Text) :
    let f := ofLocale tag
    ∃ separator, f.separator = [separator] ∧
      (∀ n, (f.format n).filter (· != separator) = Text.ofNat n) ∧
      (∀ n m, f.format n = f.format m → n = m) ∧
      (∀ n, separator ∉ f.format n ↔ (Text.ofNat n).length < 3 + f.leading) ∧
      (∀ n, 3 + f.leading ≤ (Text.ofNat n).length → ∃ first inner last,
        (f.format n).splitOn separator = first :: (inner ++ [last]) ∧
        (first :: (inner ++ [last])).flatten = Text.ofNat n ∧
        1 ≤ first.length ∧ first.length ≤ f.secondary ∧
        (∀ group ∈ inner, group.length = f.secondary) ∧ last.length = 3) ∧
      (∀ n, (∀ group ∈ (f.format n).splitOn separator, group ≠ []) ∧
        (f.format n).head? ≠ some separator ∧ (f.format n).getLast? ≠ some separator) := by
  intro f
  obtain ⟨separator, h⟩ := exists_separatesBy tag
  refine ⟨separator, h.separator_eq, h.filter_format, fun n m heq => h.format_injective heq,
    h.not_mem_format_iff, ?_, h.format_ends⟩
  intro n hle
  obtain ⟨first, inner, last, hformat, hflatten, hgrouping⟩ := h.exists_format_eq hle
  refine ⟨first, inner, last, ?_, hflatten, hgrouping.first_pos, hgrouping.first_le,
    hgrouping.inner_length, hgrouping.last_length⟩
  rw [hformat]
  exact List.splitOn_intercalate separator (h.not_mem_of_flatten hflatten) (List.cons_ne_nil _ _)

/-- The greatest number of 64 bits in groups of two, and five digits in a locale that leaves four
    together. -/
theorem digit_grouping_bounds :
    let lakhs := ofLocale "hi-IN"
    let late := ofLocale "pt_PT"
    lakhs.format 18446744073709551615 = ("1,84,46,74,40,73,70,95,51,615" : Text) ∧
    (∃ first inner last,
      (lakhs.format 18446744073709551615).splitOn ',' = first :: (inner ++ [last]) ∧
      (∀ group ∈ inner, group.length = 2) ∧ last.length = 3) ∧
    late.format 1234 = ("1234" : Text) ∧ late.format 12345 = ("12\u00a0345" : Text) ∧
    late.format 12345 ≠ late.format 12346 := by
  intro lakhs late
  obtain ⟨separator, hseparator, -, -, -, hgroups, -⟩ := digit_grouping "hi-IN"
  obtain ⟨-, -, -, hinjective, -⟩ := digit_grouping "pt_PT"
  refine ⟨by decide, ?_, by decide, by decide, fun h => ?_⟩
  · obtain ⟨first, inner, last, hsplit, -, -, -, hinner, hlast⟩ :=
      hgroups 18446744073709551615 (by decide)
    have hcomma : (ofLocale "hi-IN").separator = [','] := by decide
    obtain rfl : separator = ',' := List.singleton_injective (hseparator.symm.trans hcomma)
    have htwo : (ofLocale "hi-IN").secondary = 2 := by decide
    exact ⟨first, inner, last, hsplit, fun group hgroup => (hinner group hgroup).trans htwo, hlast⟩
  · exact absurd (hinjective 12345 12346 h) (by decide)

end ListeningCharts
