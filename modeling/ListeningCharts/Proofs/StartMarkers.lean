import ListeningCharts.Proofs.Faults

/-! # The form of a start marker

    Behind its prefix a start marker goes on with an arrow, or with a colon, something in braces and
    an arrow. Text may follow, with braces and arrows of its own, so a line can be cut in more than
    one way; the longest blob counts.

    * **Patterns**: a pattern matches a text in several ways, and a backtracking search tries them
      in a fixed order, greedy parts with their longest match first (`Pattern.ways`). The blob that
      is read from a line is what the first of these ways keeps (`first?_startPattern`).
    * **The last brace**: the blob ends at the last closing brace with an arrow behind it
      (`Marker.blob?_eq_some_iff`).
    * **The grammar**: which lines are recognised, what is read from them, and that no other line
      with the prefix passes for content (`start_marker_grammar`).
-/

namespace ListeningCharts

/-! ## Patterns -/

/-- A pattern for the start of a text. -/
inductive Pattern where
  | literal (t : Text)
  /-- Any stretch of a line. -/
  | stretch
  | both (first second : Pattern)
  /-- The pattern, or nothing. -/
  | maybe (p : Pattern)
  /-- The pattern, of which the text is kept. -/
  | keep (p : Pattern)

namespace Pattern

variable {p q : Pattern} {s t : Text}

/-- A way in which a pattern matches the start of a text. -/
structure Way where
  text : Text
  /-- What was kept of the text. -/
  kept : Option Text
  /-- What follows the text. -/
  rest : Text

/-- A way, and another one behind it. -/
def Way.andThen (w v : Way) : Way := ⟨w.text ++ v.text, v.kept.or w.kept, v.rest⟩

theorem Way.empty_andThen (v : Way) : andThen ⟨[], none, t⟩ v = v := by
  rw [andThen, List.nil_append, Option.or_none]

/-- The stretches of a line that a text starts with, each with what follows it, the longest one
    first. -/
def stretches : Text → List (Text × Text)
  | [] => [([], [])]
  | c :: t =>
    (if c = '\n' then [] else (stretches t).map fun (s, rest) => (c :: s, rest)) ++ [([], c :: t)]

/-- The ways in which a pattern matches the start of a text, in the order in which a backtracking
    search tries them. -/
def ways : Pattern → Text → List Way
  | literal s, t => ((s.isPrefixOf? t).map fun rest => ⟨s, none, rest⟩).toList
  | stretch, t => (stretches t).map fun (s, rest) => ⟨s, none, rest⟩
  | both p q, t => (p.ways t).flatMap fun w => (q.ways w.rest).map w.andThen
  | maybe p, t => p.ways t ++ [⟨[], none, t⟩]
  | keep p, t => (p.ways t).map fun w => { w with kept := some w.text }

/-- The way that a search finds. -/
def first? (p : Pattern) (t : Text) : Option Way := (p.ways t).head?

theorem first?_literal : (literal s).first? t = (s.isPrefixOf? t).map fun rest => ⟨s, none, rest⟩ := by
  rw [first?, ways]
  cases s.isPrefixOf? t <;> rfl

theorem first?_both :
    (both p q).first? t = (p.ways t).findSome? fun w => (q.first? w.rest).map w.andThen := by
  rw [first?, ways, List.head?_flatMap]
  simp only [List.head?_map, first?]

theorem ways_keep (p : Pattern) (t : Text) :
    (keep p).ways t = (p.ways t).map fun w => { w with kept := some w.text } := rfl

/-- The second of two patterns is tried without the first one if the first one may be left out. -/
theorem first?_maybe_both :
    (both (maybe p) q).first? t = ((both p q).first? t).or (q.first? t) := by
  rw [first?_both, first?_both, ways, List.findSome?_append, List.findSome?_singleton,
    funext Way.empty_andThen, Option.map_id']

/-- A literal in front matches in one way. -/
theorem ways_literal_both (q : Pattern) (s t : Text) :
    (both (literal s) q).ways (s ++ t) = (q.ways t).map (Way.andThen ⟨s, none, t⟩) := by
  rw [ways, ways, Marker.isPrefixOf?_eq_some_iff.2 rfl]
  exact List.flatMap_singleton ..

theorem ways_literal_both_of_not_prefix (h : ¬ s <+: t) : (both (literal s) q).ways t = [] := by
  rw [ways, ways, Marker.isPrefixOf?_eq_none_iff.2 h]
  rfl

/-- One more character of a line makes every stretch longer, and adds the empty one at the end. -/
theorem ways_stretch_both_cons {c : Char} (hc : c ≠ '\n') (q : Pattern) (t : Text) :
    (both stretch q).ways (c :: t) =
      ((both stretch q).ways t).map (fun w => { w with text := c :: w.text }) ++ q.ways (c :: t) := by
  simp only [ways, stretches, if_neg hc, List.map_append, List.map_map, List.flatMap_append,
    List.map_flatMap, List.flatMap_map, List.map_cons, List.map_nil, List.flatMap_singleton,
    funext Way.empty_andThen, List.map_id']
  rfl

end Pattern

/-! ## The pattern of a start marker -/

namespace Marker

/-- The brace that ends a blob, with the arrow behind it. -/
def blobEnd : Text := '\x7d' :: arrow

/-- A text in braces: an opening one at the start, and a closing one, which is another character, at
    the end. -/
def IsBraced (blob : Text) : Prop := ∃ inside, blob = '\x7b' :: (inside ++ ['\x7d'])

/-! ## The last brace -/

/-- No brace stands in the arrow. -/
theorem blobEnd_infix_arrow_append {more : Text} :
    blobEnd <:+: arrow ++ more ↔ blobEnd <:+: more := by
  have hskip : ∀ (c : Char) (t : Text), c ≠ '\x7d' → (blobEnd <:+: c :: t ↔ blobEnd <:+: t) := by
    intro c t hc
    rw [List.infix_cons_iff, or_iff_right]
    exact fun h => hc (List.cons_prefix_cons.1 h).1.symm
  show blobEnd <:+: '-' :: '-' :: '>' :: more ↔ blobEnd <:+: more
  rw [hskip _ _ (by decide), hskip _ _ (by decide), hskip _ _ (by decide)]

theorem longestBeforeArrow?_eq_none_iff_blobEnd {t : Text} :
    longestBeforeArrow? t = none ↔ ¬ blobEnd <:+: t := by
  rw [longestBeforeArrow?_eq_none_iff, not_iff_not]
  constructor
  · rintro ⟨inside, more, h⟩
    exact ⟨inside, more, by rw [← h]; rfl⟩
  · rintro ⟨inside, more, h⟩
    exact ⟨inside, more, h⟩

/-- Up to the last closing brace with an arrow behind it, everything is taken. -/
theorem longestBeforeArrow?_of_last {more : Text} (hlast : ¬ blobEnd <:+: more) (inside : Text) :
    longestBeforeArrow? (inside ++ (blobEnd ++ more)) = some (inside ++ ['\x7d']) := by
  induction inside with
  | nil =>
    have hnone : longestBeforeArrow? (arrow ++ more) = none := by
      rw [longestBeforeArrow?_eq_none_iff_blobEnd, blobEnd_infix_arrow_append]
      exact hlast
    have harrow : arrow.isPrefixOf (arrow ++ more) = true :=
      List.isPrefixOf_iff_prefix.2 (List.prefix_append arrow more)
    show longestBeforeArrow? ('\x7d' :: (arrow ++ more)) = some ['\x7d']
    rw [longestBeforeArrow?, hnone]
    simp only [harrow, and_self, if_true]
  | cons c inside ih =>
    rw [List.cons_append, longestBeforeArrow?, ih]
    rfl

/-- A text with a closing brace in front of an arrow has a last one. -/
theorem exists_last_of_infix {t : Text} (h : blobEnd <:+: t) :
    ∃ inside more, t = inside ++ (blobEnd ++ more) ∧ ¬ blobEnd <:+: more := by
  induction t with
  | nil => simp [blobEnd] at h
  | cons c t ih =>
    by_cases hlater : blobEnd <:+: t
    · obtain ⟨inside, more, rfl, hlast⟩ := ih hlater
      exact ⟨c :: inside, more, rfl, hlast⟩
    · -- the only one stands at the start
      rw [List.infix_cons_iff, or_iff_left hlater] at h
      obtain ⟨more, hmore⟩ := h
      refine ⟨[], more, hmore.symm, fun hlast => hlater ?_⟩
      obtain ⟨-, rfl⟩ := List.cons.inj hmore
      exact blobEnd_infix_arrow_append.2 hlast

/-! ## What is read -/

theorem blob?_of_arrow (more : Text) : blob? (arrow ++ more) = some none := by
  have harrow : arrow.isPrefixOf (arrow ++ more) = true :=
    List.isPrefixOf_iff_prefix.2 (List.prefix_append arrow more)
  unfold blob?
  split
  · next h => exact absurd (List.cons.inj h).1 (by decide)
  · rw [if_pos harrow]

theorem blob?_of_last {more : Text} (hlast : ¬ blobEnd <:+: more) (inside : Text) :
    blob? (':' :: '\x7b' :: (inside ++ (blobEnd ++ more))) =
      some (some ('\x7b' :: (inside ++ ['\x7d']))) := by
  rw [blob?, longestBeforeArrow?_of_last hlast]
  rfl

/-- What follows the prefix of a start marker: an arrow, or a colon, a text in braces and an arrow. -/
theorem matches_iff {rest : Text} : Matches rest ↔ (∃ more, rest = arrow ++ more) ∨
    ∃ blob more, IsBraced blob ∧ rest = ':' :: (blob ++ (arrow ++ more)) := by
  constructor
  · rintro (⟨more, h⟩ | ⟨inside, more, h⟩)
    · exact .inl ⟨more, h.symm⟩
    · exact .inr ⟨_, more, ⟨inside, rfl⟩, by rw [← h]; simp⟩
  · rintro (⟨more, rfl⟩ | ⟨blob, more, ⟨inside, rfl⟩, rfl⟩)
    · exact .inl (List.prefix_append arrow more)
    · exact .inr ⟨inside, more, by simp⟩

/-- The kind of a line with the start prefix is a matter of its blob. -/
theorem classify_startPrefix_append (f : Family) (rest : Text) :
    classify f (f.startPrefix ++ rest) =
      match blob? rest with
      | none => .error (.form f)
      | some blob => (RegionConfig.ofBlob blob).map .opening := by
  have hfront : f.startPrefix.isPrefixOf? (f.startPrefix ++ rest) = some rest :=
    isPrefixOf?_eq_some_iff.2 rfl
  unfold classify
  cases hblob : blob? rest with
  | none => simp only [hfront, hblob]
  | some blob => simp only [hfront, hblob]

/-- What ends at the last brace with an arrow behind it is longer than what ends at another one. -/
theorem prefix_of_last {inside more inside' more' : Text} (hlast : ¬ blobEnd <:+: more)
    (h : inside ++ (blobEnd ++ more) = inside' ++ (blobEnd ++ more')) :
    inside' ++ ['\x7d'] <+: inside ++ ['\x7d'] := by
  rcases List.append_eq_append_iff.1 h with ⟨mid, rfl, hmid⟩ | ⟨mid, rfl, hmid⟩
  · -- the other brace would stand behind the last one
    cases mid with
    | nil => simp
    | cons c mid =>
      obtain ⟨-, hmore⟩ := List.cons.inj hmid
      have hlater : blobEnd <:+: arrow ++ more := by
        rw [show arrow ++ more = mid ++ (blobEnd ++ more') from hmore]
        exact ⟨mid, more', by simp⟩
      exact absurd (blobEnd_infix_arrow_append.1 hlater) hlast
  · cases mid with
    | nil => simp
    | cons c mid =>
      obtain ⟨rfl, -⟩ := List.cons.inj hmid
      exact ⟨mid ++ ['\x7d'], by simp⟩

/-- If a line can be cut behind a blob at all, it can be cut behind the longest one. -/
theorem exists_longest {rest : Text}
    (h : ∃ blob more, IsBraced blob ∧ rest = ':' :: (blob ++ (arrow ++ more))) :
    ∃ inside more, rest = ':' :: '\x7b' :: (inside ++ (blobEnd ++ more)) ∧
      ¬ blobEnd <:+: more := by
  obtain ⟨blob, more, ⟨inside, rfl⟩, rfl⟩ := h
  have hinfix : blobEnd <:+: inside ++ (blobEnd ++ more) := ⟨inside, more, by simp⟩
  obtain ⟨inside', more', heq, hlast⟩ := exists_last_of_infix hinfix
  refine ⟨inside', more', ?_, hlast⟩
  rw [← heq]
  simp [blobEnd]

end Marker

/-- A configuration that is refused is not refused for the form of its line. -/
theorem RegionConfig.ofBlob_ne_form {f : Family} {blob : Option Text} :
    ofBlob blob ≠ .error (.form f) := by
  unfold ofBlob
  split
  · nofun
  · split
    · nofun
    · split <;> nofun

/-- A line with the start prefix is refused for its form exactly if it does not go on like a start
    marker. -/
theorem Marker.classify_eq_form_iff {f : Family} {rest : Text} :
    classify f (f.startPrefix ++ rest) = .error (.form f) ↔ ¬ Matches rest := by
  rw [classify_startPrefix_append, ← blob?_eq_none_iff]
  cases hblob : blob? rest with
  | none => simp
  | some blob =>
    cases hconfig : RegionConfig.ofBlob blob with
    | ok config => simp [Except.map, hconfig]
    | error fault =>
      have hfault : fault ≠ .form f := fun h => RegionConfig.ofBlob_ne_form (h ▸ hconfig)
      simp [Except.map, hconfig, hfault]

/-! ## The pattern of a start marker -/

open Pattern in
/-- A colon and a blob. -/
def blobPattern : Pattern :=
  both (literal [':']) (keep (both (literal ['\x7b']) (both stretch (literal ['\x7d']))))

open Pattern in
/-- The pattern of a start marker, which keeps the blob. -/
def startPattern (f : Family) : Pattern :=
  both (literal f.startPrefix) (both (maybe blobPattern) (literal Marker.arrow))

namespace Pattern

theorem ways_blobPattern (inner : Text) :
    blobPattern.ways (':' :: '\x7b' :: inner) =
      ((both stretch (literal ['\x7d'])).ways inner).map fun w =>
        ⟨':' :: '\x7b' :: w.text, some ('\x7b' :: w.text), w.rest⟩ := by
  have hcolon := ways_literal_both (keep (both (literal ['\x7b']) (both stretch (literal ['\x7d']))))
    [':'] ('\x7b' :: inner)
  have hbrace := ways_literal_both (both stretch (literal ['\x7d'])) ['\x7b'] inner
  rw [List.singleton_append] at hcolon hbrace
  rw [blobPattern, hcolon, ways_keep, hbrace, List.map_map, List.map_map]
  rfl

theorem ways_blobPattern_of_ne {rest : Text} (h : ∀ inner, rest ≠ ':' :: '\x7b' :: inner) :
    blobPattern.ways rest = [] := by
  by_cases hcolon : [':'] <+: rest
  · obtain ⟨t, rfl⟩ := hcolon
    have hbrace : ¬ ['\x7b'] <+: t := by
      rintro ⟨inner, rfl⟩
      exact h inner rfl
    rw [blobPattern, ways_literal_both, ways_keep, ways_literal_both_of_not_prefix hbrace]
    rfl
  · exact ways_literal_both_of_not_prefix hcolon

/-- A closing brace is found if an arrow is behind it. -/
theorem findSome?_brace (c : Char) (inner : Text) :
    ((literal ['\x7d']).ways (c :: inner)).findSome? (fun w =>
      (Marker.arrow.isPrefixOf? w.rest).map fun _ => w.text) =
      if c = '\x7d' ∧ Marker.arrow.isPrefixOf inner then some [c] else none := by
  by_cases hbrace : c = '\x7d'
  · subst hbrace
    show (Option.toList (some (Way.mk ['\x7d'] none inner))).findSome? _ = _
    rw [Option.toList_some, List.findSome?_singleton]
    by_cases harrow : Marker.arrow <+: inner
    · obtain ⟨rest, rfl⟩ := harrow
      rw [Marker.isPrefixOf?_eq_some_iff.2 rfl, if_pos ⟨rfl, by simp⟩]
      rfl
    · rw [Marker.isPrefixOf?_eq_none_iff.2 harrow, if_neg (by simp [harrow])]
      rfl
  · have hnone : ¬ ['\x7d'] <+: c :: inner := fun hp => hbrace (List.cons_prefix_cons.1 hp).1.symm
    rw [ways, Marker.isPrefixOf?_eq_none_iff.2 hnone, if_neg (fun hif => hbrace hif.1)]
    rfl

/-- Of the stretches of a line that end in a closing brace, the longest one with an arrow behind it is
    found. -/
theorem findSome?_stretch {inner : Text} (h : '\n' ∉ inner) :
    (((both stretch (literal ['\x7d'])).ways inner).findSome? fun w =>
      (Marker.arrow.isPrefixOf? w.rest).map fun _ => w.text) = Marker.longestBeforeArrow? inner := by
  induction inner with
  | nil => rfl
  | cons c inner ih =>
    have hc : c ≠ '\n' := fun hc => h (by simp [hc])
    have hinner : '\n' ∉ inner := fun hmem => h (List.mem_cons_of_mem c hmem)
    rw [ways_stretch_both_cons hc, List.findSome?_append, List.findSome?_map,
      Marker.longestBeforeArrow?, ← ih hinner]
    -- a stretch that goes on is found before the one that ends here
    generalize (both stretch (literal ['\x7d'])).ways inner = later
    have hlater : later.findSome? ((fun w => (Marker.arrow.isPrefixOf? w.rest).map fun _ => w.text) ∘
        fun w => { w with text := c :: w.text }) =
        (later.findSome? fun w => (Marker.arrow.isPrefixOf? w.rest).map fun _ => w.text).map
          (c :: ·) := by
      rw [List.map_findSome?]
      congr 1
      funext w
      show _ = Option.map _ (Option.map _ _)
      rw [Option.map_map]
      rfl
    rw [hlater, findSome?_brace]
    cases later.findSome? _ <;> rfl

/-- **The blob is what the pattern keeps**, in the first way in which a backtracking search matches
    the line. -/
theorem first?_startPattern (f : Family) {rest : Text} (h : '\n' ∉ rest) :
    ((startPattern f).first? (f.startPrefix ++ rest)).map Way.kept = Marker.blob? rest := by
  have htail : ((startPattern f).first? (f.startPrefix ++ rest)).map Way.kept =
      ((both (maybe blobPattern) (literal Marker.arrow)).first? rest).map Way.kept := by
    have hkept : Way.kept ∘ Way.andThen ⟨f.startPrefix, none, rest⟩ = Way.kept := by
      funext v
      exact Option.or_none
    rw [startPattern, first?, ways_literal_both, List.head?_map, ← first?, Option.map_map, hkept]
  rw [htail, first?_maybe_both, first?_both, first?_literal, Marker.blob?.eq_def]
  split
  · next inner =>
    -- the arrow does not start with a colon, so only the blob is left to try
    have harrow : ¬ Marker.arrow <+: ':' :: '\x7b' :: inner := fun h =>
      absurd (List.cons_prefix_cons.1 h).1 (by decide)
    have hinner : '\n' ∉ inner := fun hmem =>
      h (List.mem_cons_of_mem _ (List.mem_cons_of_mem _ hmem))
    rw [Marker.isPrefixOf?_eq_none_iff.2 harrow, Option.map_none, Option.or_none, ways_blobPattern,
      List.findSome?_map, List.map_findSome?, ← findSome?_stretch hinner, List.map_findSome?]
    congr 1
    funext w
    simp only [Function.comp_apply, first?_literal]
    cases Marker.arrow.isPrefixOf? w.rest <;> rfl
  · next hother =>
    rw [ways_blobPattern_of_ne fun inner h => hother inner h, List.findSome?_nil, Option.none_or]
    by_cases harrow : Marker.arrow <+: rest
    · obtain ⟨more, rfl⟩ := harrow
      rw [Marker.isPrefixOf?_eq_some_iff.2 rfl, if_pos (by simp)]
      rfl
    · rw [Marker.isPrefixOf?_eq_none_iff.2 harrow, if_neg (by simp [harrow])]
      rfl

end Pattern

/-! ## The grammar -/

/-- The scan stops at the first faulty line of a document. -/
theorem scan_of_lineFault {f : Family} {document line : Text} {front back : List Text} {e : Error}
    (hlines : document.lines = front ++ line :: back) (hclean : Clean f front)
    (hfault : LineFault f front line e) : scan f document = .error e := by
  obtain ⟨pending, closed, hpending, hrun⟩ := Numbered.exists_of_clean hclean
  rw [scan, hlines, hrun, hpending.pairMarkers_of_lineFault hfault]
  rfl

open Marker in
/-- **The grammar of start markers**, for a line that goes on with `rest` behind the start prefix of a
    family.

    * The line is recognised if and only if an arrow follows, or a colon, a text in braces and an
      arrow.
    * If an arrow follows, there is no blob.
    * If a colon and a text in braces follow, the blob ends at the last closing brace with an arrow
      behind it, and that is the longest one possible: every other one is a start of it.
    * Any other such line is a malformed configuration wherever it stands, and no document with it is
      accepted. If nothing in front of it is at fault, it is what the scan reports.
    * The blob is the one that a greedy search for the pattern keeps. -/
theorem start_marker_grammar (f : Family) (rest : Text) :
    (classify f (f.startPrefix ++ rest) ≠ .error (.form f) ↔
      (∃ more, rest = arrow ++ more) ∨
        ∃ blob more, IsBraced blob ∧ rest = ':' :: (blob ++ (arrow ++ more))) ∧
    (∀ more, rest = arrow ++ more →
      classify f (f.startPrefix ++ rest) = (RegionConfig.ofBlob none).map .opening) ∧
    (∀ blob more, IsBraced blob → rest = ':' :: (blob ++ (arrow ++ more)) → ¬ blobEnd <:+: more →
      classify f (f.startPrefix ++ rest) = (RegionConfig.ofBlob (some blob)).map .opening ∧
        ∀ other more', IsBraced other → rest = ':' :: (other ++ (arrow ++ more')) →
          other <+: blob) ∧
    ((∃ blob more, IsBraced blob ∧ rest = ':' :: (blob ++ (arrow ++ more))) →
      ∃ blob more, IsBraced blob ∧ rest = ':' :: (blob ++ (arrow ++ more)) ∧
        ¬ blobEnd <:+: more) ∧
    ((¬ ∃ more, rest = arrow ++ more) →
      (¬ ∃ blob more, IsBraced blob ∧ rest = ':' :: (blob ++ (arrow ++ more))) →
      (∀ pending offset lines, pairMarkers f pending offset ((f.startPrefix ++ rest) :: lines) =
        .error (.malformedConfiguration (f.startPrefix ++ rest) (.form f))) ∧
      (∀ document, f.startPrefix ++ rest ∈ document.lines →
        ∀ regions, scan f document ≠ .ok regions) ∧
      ∀ document front back, document.lines = front ++ (f.startPrefix ++ rest) :: back →
        Clean f front →
        scan f document = .error (.malformedConfiguration (f.startPrefix ++ rest) (.form f))) ∧
    ('\n' ∉ rest →
      ((startPattern f).first? (f.startPrefix ++ rest)).map Pattern.Way.kept = blob? rest) := by
  refine ⟨?_, ?_, ?_, ?_, fun harrow hblob => ?_, Pattern.first?_startPattern f⟩
  · rw [ne_eq, classify_eq_form_iff, not_not, matches_iff]
  · rintro more rfl
    rw [classify_startPrefix_append, blob?_of_arrow]
  · rintro _ more ⟨inside, rfl⟩ hrest hlast
    obtain rfl : rest = ':' :: '\x7b' :: (inside ++ (blobEnd ++ more)) := by simpa [blobEnd] using hrest
    refine ⟨by rw [classify_startPrefix_append, blob?_of_last hlast], ?_⟩
    rintro _ more' ⟨inside', rfl⟩ heq
    have hinside : inside ++ (blobEnd ++ more) = inside' ++ (blobEnd ++ more') := by
      simpa [blobEnd] using heq
    exact List.cons_prefix_cons.2 ⟨rfl, prefix_of_last hlast hinside⟩
  · intro hform
    obtain ⟨inside, more, hrest, hlast⟩ := exists_longest hform
    exact ⟨_, more, ⟨inside, rfl⟩, by simp [hrest, blobEnd], hlast⟩
  · have hmatches : ¬ Matches rest := by
      rw [matches_iff]
      exact fun h => h.elim harrow hblob
    have hfault := classify_eq_form_iff (f := f).2 hmatches
    refine ⟨fun pending offset lines => pairMarkers_of_classify_error hfault, ?_, ?_⟩
    · intro document hmem regions hscan
      obtain ⟨kind, hkind⟩ := (scan_eq_ok_iff.1 hscan).isFormed _ hmem
      rw [hfault] at hkind
      cases hkind
    · intro document front back hlines hclean
      exact scan_of_lineFault hlines hclean (.form rfl hmatches)

/-- A line with two closing braces in front of arrows, the last of which ends the blob, and with one
    more brace that has no arrow behind it; a start marker without a blob and with text behind it that
    looks like one; a longer name. -/
theorem start_marker_grammar_samples :
    Marker.classify .tracks
        (Family.tracks.startPrefix ++ (":\x7b\"rows\":3\x7d--> \x7d-->\x7d\r" : Text)) =
      (RegionConfig.ofBlob (some "\x7b\"rows\":3\x7d--> \x7d")).map .opening ∧
    Marker.classify .tracks (Family.tracks.startPrefix ++ ("-->:\x7b\x7d-->" : Text)) =
      (RegionConfig.ofBlob none).map .opening ∧
    scan .tracks (Text.joinLines ["Hi 🎶", "<!--START_LASTFM_TRACKS_2-->"]) =
      .error (.malformedConfiguration "<!--START_LASTFM_TRACKS_2-->" (.form .tracks)) ∧
    ((startPattern .tracks).first?
        (Family.tracks.startPrefix ++ (":\x7b\"rows\":3\x7d--> \x7d-->\x7d\r" : Text))).map
      Pattern.Way.kept = some (some ("\x7b\"rows\":3\x7d--> \x7d" : Text)) := by
  refine ⟨?_, ?_, ?_, ?_⟩
  · exact ((start_marker_grammar .tracks _).2.2.1 _ "\x7d\r" ⟨"\"rows\":3\x7d--> ", by decide⟩ (by decide)
      (by decide)).1
  · exact (start_marker_grammar .tracks _).2.1 ":\x7b\x7d-->" (by decide)
  · have harrow : ¬ ∃ more, ("_2-->" : Text) = Marker.arrow ++ more := by
      rintro ⟨more, h⟩
      exact absurd (List.cons.inj h).1 (by decide)
    have hblob : ¬ ∃ blob more, Marker.IsBraced blob ∧
        ("_2-->" : Text) = ':' :: (blob ++ (Marker.arrow ++ more)) := by
      rintro ⟨blob, more, -, h⟩
      exact absurd (List.cons.inj h).1 (by decide)
    exact ((start_marker_grammar .tracks "_2-->").2.2.2.2.1 harrow hblob).2.2 _ ["Hi 🎶"] []
      (by decide +kernel) (by decide +kernel)
  · rw [(start_marker_grammar .tracks ":\x7b\"rows\":3\x7d--> \x7d-->\x7d\r").2.2.2.2.2 (by decide)]
    decide +kernel

end ListeningCharts
