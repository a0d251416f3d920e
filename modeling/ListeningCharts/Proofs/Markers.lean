import ListeningCharts.Scan
import ListeningCharts.Text.Search

/-! # What a line is to the families

    How a line starts decides what it is to the regions of a family: it opens one, it closes one,
    or it is content. The configuration that an opening line carries does not matter for that, so
    the **role** of a line is a coarser thing than its kind.

    * A line that has a role for one family is content to every other (`role_of_ne`).
    * The kind that `Marker.classify` gives to a line agrees with its role.
-/

namespace ListeningCharts

/-- What a line is to the regions of a family, by how it starts. -/
inductive Role where
  | opens
  | closes
  | content
  deriving DecidableEq, Repr

namespace Family

theorem mem_all (f : Family) : f ∈ all := by cases f <;> decide

/-- The role of a line for a family. -/
def role (f : Family) (line : Text) : Role :=
  if f.startPrefix.isPrefixOf line then .opens
  else if f.endPrefix.isPrefixOf line then .closes
  else .content

/-! ## Prefixes -/

/-- No marker prefix starts another one. -/
theorem prefixes_apart : ∀ f ∈ all, ∀ g ∈ all,
    (f.startPrefix <+: g.startPrefix → f = g) ∧ (f.endPrefix <+: g.endPrefix → f = g) ∧
      ¬ f.startPrefix <+: g.endPrefix ∧ ¬ f.endPrefix <+: g.startPrefix := by
  decide +kernel

/-- A line that starts with two start prefixes starts with one. -/
theorem eq_of_startPrefix {f g : Family} {line : Text} (hf : f.startPrefix <+: line)
    (hg : g.startPrefix <+: line) : f = g := by
  -- two prefixes of one line are prefixes of each other, one way or the other
  rcases List.prefix_or_prefix_of_prefix hf hg with h | h
  · exact (prefixes_apart f f.mem_all g g.mem_all).1 h
  · exact ((prefixes_apart g g.mem_all f f.mem_all).1 h).symm

/-- A line that starts with two end prefixes starts with one. -/
theorem eq_of_endPrefix {f g : Family} {line : Text} (hf : f.endPrefix <+: line)
    (hg : g.endPrefix <+: line) : f = g := by
  rcases List.prefix_or_prefix_of_prefix hf hg with h | h
  · exact (prefixes_apart f f.mem_all g g.mem_all).2.1 h
  · exact ((prefixes_apart g g.mem_all f f.mem_all).2.1 h).symm

/-- No line starts with a start prefix and an end prefix. -/
theorem not_startPrefix_of_endPrefix {f g : Family} {line : Text} (hg : g.endPrefix <+: line) :
    ¬ f.startPrefix <+: line := by
  intro hf
  rcases List.prefix_or_prefix_of_prefix hf hg with h | h
  · exact (prefixes_apart f f.mem_all g g.mem_all).2.2.1 h
  · exact (prefixes_apart g g.mem_all f f.mem_all).2.2.2 h

/-! ## Roles -/

theorem role_eq_opens_iff {f : Family} {line : Text} :
    f.role line = .opens ↔ f.startPrefix <+: line := by
  unfold role
  rw [← List.isPrefixOf_iff_prefix]
  split
  · next h => simp [h]
  · next h => split <;> simp [h]

theorem role_eq_closes_iff {f : Family} {line : Text} :
    f.role line = .closes ↔ f.endPrefix <+: line := by
  unfold role
  split
  · next h =>
    -- the start prefix is tried first, but it hides no end marker
    have hstart := List.isPrefixOf_iff_prefix.1 h
    simp only [reduceCtorEq, false_iff]
    exact fun hend => not_startPrefix_of_endPrefix hend hstart
  · split
    · next h => simp [List.isPrefixOf_iff_prefix.1 h]
    · next h =>
      simp only [reduceCtorEq, false_iff]
      exact fun hend => h (List.isPrefixOf_iff_prefix.2 hend)

theorem role_eq_content_iff {f : Family} {line : Text} :
    f.role line = .content ↔ ¬ f.startPrefix <+: line ∧ ¬ f.endPrefix <+: line := by
  rw [← role_eq_opens_iff, ← role_eq_closes_iff]
  cases f.role line <;> simp

/-- **Marker lines of different families are different**: a line that opens or closes a region of
    one family is content to every other. -/
theorem role_of_ne {f g : Family} {line : Text} (hf : f.role line ≠ .content) (hne : g ≠ f) :
    g.role line = .content := by
  rw [role_eq_content_iff]
  cases hrole : f.role line with
  | content => exact absurd hrole hf
  | opens =>
    have hstart := role_eq_opens_iff.1 hrole
    exact ⟨fun h => hne (eq_of_startPrefix h hstart),
      fun h => not_startPrefix_of_endPrefix h hstart⟩
  | closes =>
    have hend := role_eq_closes_iff.1 hrole
    exact ⟨not_startPrefix_of_endPrefix hend, fun h => hne (eq_of_endPrefix h hend)⟩

/-- A line that closes a region still does so when more follows on it. -/
theorem role_append_of_closes {f : Family} {line : Text} (h : f.role line = .closes)
    (more : Text) : f.role (line ++ more) = .closes :=
  role_eq_closes_iff.2 ((role_eq_closes_iff.1 h).trans (List.prefix_append line more))

end Family

/-! ## Kinds -/

/-- A line is formed for a family unless it starts like a start marker and does not go on like
    one. -/
def Marker.IsFormed (f : Family) (line : Text) : Prop := ∃ kind, Marker.classify f line = .ok kind

/-- A line of a document outside every marker: content to every family, and one line. -/
structure IsPlain (line : Text) : Prop where
  content : ∀ f : Family, f.role line = .content
  one : '\n' ∉ line

namespace Marker

theorem isPrefixOf?_eq_none_iff {needle t : Text} :
    needle.isPrefixOf? t = none ↔ ¬ needle <+: t := by
  induction needle generalizing t with
  | nil => simp [Text.isPrefixOf?_nil]
  | cons c needle ih =>
    cases t with
    | nil => simp [Text.isPrefixOf?_cons_nil]
    | cons d t =>
      rw [Text.isPrefixOf?_cons_cons, List.cons_prefix_cons]
      split
      · next h => rw [ih, eq_of_beq h]; simp
      · next h =>
        have hne : c ≠ d := fun heq => h (by simp [heq])
        simp [hne]

theorem isPrefixOf?_eq_some_iff {needle t rest : Text} :
    needle.isPrefixOf? t = some rest ↔ t = needle ++ rest := by
  constructor
  · exact Text.eq_append_of_isPrefixOf?
  · rintro rfl
    induction needle with
    | nil => exact Text.isPrefixOf?_nil rest
    | cons c needle ih =>
      rw [List.cons_append, Text.isPrefixOf?_cons_cons, if_pos (beq_self_eq_true c)]
      exact ih

theorem classify_of_content {f : Family} {line : Text} (h : f.role line = .content) :
    classify f line = .ok .content := by
  obtain ⟨hstart, hend⟩ := Family.role_eq_content_iff.1 h
  have hend' : ¬ f.endPrefix.isPrefixOf line = true := fun h =>
    hend (List.isPrefixOf_iff_prefix.1 h)
  rw [classify, isPrefixOf?_eq_none_iff.2 hstart]
  simp [hend']

theorem classify_of_closes {f : Family} {line : Text} (h : f.role line = .closes) :
    classify f line = .ok .closing := by
  have hend := Family.role_eq_closes_iff.1 h
  have hstart := Family.not_startPrefix_of_endPrefix (f := f) hend
  rw [classify, isPrefixOf?_eq_none_iff.2 hstart]
  simp [List.isPrefixOf_iff_prefix.2 hend]

/-- A line that starts like a start marker opens a region, or is no valid marker. -/
theorem classify_of_opens {f : Family} {line : Text} (h : f.role line = .opens) :
    (∃ fault, classify f line = .error fault) ∨ ∃ config, classify f line = .ok (.opening config) := by
  obtain ⟨rest, hrest⟩ := Family.role_eq_opens_iff.1 h
  have hstart := isPrefixOf?_eq_some_iff.2 hrest.symm
  cases hblob : blob? rest with
  | none => exact .inl ⟨.form f, by simp only [classify, hstart, hblob]⟩
  | some blob =>
    cases hconfig : RegionConfig.ofBlob blob with
    | error fault =>
      exact .inl ⟨fault, by simp only [classify, hstart, hblob, hconfig, Except.map]⟩
    | ok config =>
      exact .inr ⟨config, by simp only [classify, hstart, hblob, hconfig, Except.map]⟩

theorem role_of_classify_opening {f : Family} {line : Text} {config : RegionConfig}
    (h : classify f line = .ok (.opening config)) : f.role line = .opens := by
  cases hrole : f.role line with
  | opens => rfl
  | closes => simp [classify_of_closes hrole] at h
  | content => simp [classify_of_content hrole] at h

/-- A line that is no start marker is formed. -/
theorem isFormed_of_role_ne_opens {f : Family} {line : Text} (h : f.role line ≠ .opens) :
    IsFormed f line := by
  cases hrole : f.role line with
  | opens => exact absurd hrole h
  | closes => exact ⟨_, classify_of_closes hrole⟩
  | content => exact ⟨_, classify_of_content hrole⟩

/-- A formed line that starts like a start marker opens a region. -/
theorem exists_opening {f : Family} {line : Text} (hformed : IsFormed f line)
    (h : f.role line = .opens) : ∃ config, classify f line = .ok (.opening config) := by
  obtain ⟨kind, hkind⟩ := hformed
  rcases classify_of_opens h with ⟨fault, hfault⟩ | hopening
  · rw [hfault] at hkind; cases hkind
  · exact hopening

end Marker

end ListeningCharts
