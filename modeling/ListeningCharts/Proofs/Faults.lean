import ListeningCharts.Proofs.Ledger
import ListeningCharts.Proofs.Numbering

/-! # Faulty lines

    Whether a document is accepted, and with which error it is refused, told from its lines.

    * A line is **faulty** behind others if it starts like a start marker and is none, or carries a
      configuration that is refused, or if it is an end marker and no region is open there, which is
      a matter of counting (`LineFault`).
    * Behind lines without a fault the scan goes on, with the regions pending that the counts tell
      (`Numbered.exists_of_clean`).
    * **The verdict**: the first faulty line is the error; without one, the start markers whose
      number is higher than the count of end markers are; without these, the document is accepted
      (`scan_verdict`).
-/

namespace ListeningCharts

/-! ## The pattern of a start marker -/

namespace Marker

/-- How a start marker goes on behind its prefix: with an arrow, or with a colon and something in
    braces in front of an arrow. -/
def Matches (rest : Text) : Prop :=
  arrow <+: rest ∨ ∃ inside, ':' :: '\x7b' :: (inside ++ '\x7d' :: arrow) <+: rest

theorem longestBeforeArrow?_eq_none_iff {t : Text} :
    longestBeforeArrow? t = none ↔ ¬ ∃ inside, inside ++ '\x7d' :: arrow <+: t := by
  induction t with
  | nil =>
    refine iff_of_true rfl ?_
    rintro ⟨inside, h⟩
    simp at h
  | cons c rest ih =>
    -- the brace in front of the arrow is the first character, or it stands behind it
    have hcases : (∃ inside, inside ++ '\x7d' :: arrow <+: c :: rest) ↔
        (c = '\x7d' ∧ arrow <+: rest) ∨ ∃ inside, inside ++ '\x7d' :: arrow <+: rest := by
      constructor
      · rintro ⟨inside, h⟩
        cases inside with
        | nil =>
          obtain ⟨hc, harrow⟩ := List.cons_prefix_cons.1 h
          exact .inl ⟨hc.symm, harrow⟩
        | cons d inside => exact .inr ⟨inside, (List.cons_prefix_cons.1 h).2⟩
      · rintro (⟨rfl, harrow⟩ | ⟨inside, h⟩)
        · exact ⟨[], List.cons_prefix_cons.2 ⟨rfl, harrow⟩⟩
        · exact ⟨c :: inside, List.cons_prefix_cons.2 ⟨rfl, h⟩⟩
    rw [hcases, longestBeforeArrow?, not_or, ← ih]
    cases longestBeforeArrow? rest with
    | some t => simp
    | none => simp [List.isPrefixOf_iff_prefix]

/-- A marker has a blob, if only an empty one, exactly if it follows the pattern. -/
theorem blob?_eq_none_iff {rest : Text} : blob? rest = none ↔ ¬ Matches rest := by
  unfold blob? Matches
  split
  · next inner =>
    rw [Option.map_eq_none_iff, longestBeforeArrow?_eq_none_iff]
    have harrow : ¬ arrow <+: ':' :: '\x7b' :: inner := fun h =>
      absurd (List.cons_prefix_cons.1 h).1 (by decide)
    simp [harrow, List.cons_prefix_cons]
  · next hother =>
    have hinside : ¬ ∃ inside, ':' :: '\x7b' :: (inside ++ '\x7d' :: arrow) <+: rest := by
      rintro ⟨inside, more, rfl⟩
      exact hother _ rfl
    simp [hinside, List.isPrefixOf_iff_prefix]

end Marker

/-! ## Faults -/

/-- Why a line cannot stand behind others. -/
inductive LineFault (f : Family) (front : List Text) (line : Text) : Error → Prop where
  /-- The line starts like a start marker and does not go on like one. -/
  | form {rest : Text} (hline : line = f.startPrefix ++ rest) (hrest : ¬ Marker.Matches rest) :
      LineFault f front line (.malformedConfiguration line (.form f))
  /-- The line carries a configuration that is refused. -/
  | config {rest : Text} {blob : Option Text} {fault : ConfigFault}
      (hline : line = f.startPrefix ++ rest) (hblob : Marker.blob? rest = some blob)
      (hfault : RegionConfig.ofBlob blob = .error fault) :
      LineFault f front line (.malformedConfiguration line fault)
  /-- The line is an end marker, and in front of it there are as many of these as start markers. -/
  | unopened (hline : f.endPrefix <+: line)
      (hcount : f.count .closes front = f.count .opens front) :
      LineFault f front line (.endWithoutStart line)

/-- No line is faulty behind those in front of it. -/
def Clean (f : Family) (lines : List Text) : Prop :=
  ∀ front line back e, lines = front ++ line :: back → ¬ LineFault f front line e

/-- The lines that start like a start marker, in their order. -/
def Family.openers (f : Family) (lines : List Text) : List Text :=
  lines.filter fun line => f.role line = .opens

variable {f : Family} {front back lines : List Text} {line : Text} {e : Error}

theorem Clean.left (h : Clean f (front ++ back)) : Clean f front := by
  intro front' line back' e hfront
  apply h front' line (back' ++ back) e
  rw [hfront, List.append_assoc, List.cons_append]

theorem Clean.not_lineFault (h : Clean f (front ++ [line])) : ∀ e, ¬ LineFault f front line e :=
  fun e => h front line [] e rfl

theorem clean_nil : Clean f [] := by
  intro front line back e h
  simp at h

theorem Clean.snoc (h : Clean f lines) (hline : ∀ e, ¬ LineFault f lines line e) :
    Clean f (lines ++ [line]) := by
  intro front line' back e hcut hfault
  -- the faulty line would be one of the first lines, or the last one
  rcases List.eq_nil_or_concat back with rfl | ⟨back, last, rfl⟩
  · obtain ⟨rfl, hlast⟩ := List.append_inj' hcut rfl
    cases hlast
    exact hline e hfault
  · rw [List.concat_eq_append, ← List.cons_append, ← List.append_assoc] at hcut
    obtain ⟨rfl, -⟩ := List.append_inj' hcut rfl
    exact h front line' back e rfl hfault

/-- Lines are free of faults, or one of them is the first to be faulty. -/
theorem clean_or_exists_lineFault (f : Family) (lines : List Text) :
    Clean f lines ∨ ∃ front line back e, lines = front ++ line :: back ∧ Clean f front ∧
      LineFault f front line e := by
  induction lines using List.reverseRecOn with
  | nil => exact .inl clean_nil
  | append_singleton lines line ih =>
    rcases ih with hclean | ⟨front, first, back, e, rfl, hclean, hfault⟩
    · by_cases hline : ∃ e, LineFault f lines line e
      · obtain ⟨e, hfault⟩ := hline
        exact .inr ⟨lines, line, [], e, rfl, hclean, hfault⟩
      · exact .inl (hclean.snoc fun e hfault => hline ⟨e, hfault⟩)
    · exact .inr ⟨front, first, back ++ [line], e, by simp, hclean, hfault⟩

/-! ## One line -/

/-- A line is faulty if it has no kind, or closes a region where none is open. -/
theorem lineFault_iff : LineFault f front line e ↔
    (∃ fault, Marker.classify f line = .error fault ∧ e = .malformedConfiguration line fault) ∨
      f.role line = .closes ∧ f.count .closes front = f.count .opens front ∧
        e = .endWithoutStart line := by
  constructor
  · intro h
    cases h with
    | @form rest hline hrest =>
      refine .inl ⟨.form f, ?_, rfl⟩
      simp only [Marker.classify, Marker.isPrefixOf?_eq_some_iff.2 hline,
        Marker.blob?_eq_none_iff.2 hrest]
    | @config rest blob fault hline hblob hfault =>
      refine .inl ⟨fault, ?_, rfl⟩
      simp only [Marker.classify, Marker.isPrefixOf?_eq_some_iff.2 hline, hblob, hfault, Except.map]
    | unopened hline hcount => exact .inr ⟨Family.role_eq_closes_iff.2 hline, hcount, rfl⟩
  · rintro (⟨fault, h, rfl⟩ | ⟨hrole, hcount, rfl⟩)
    · -- only a line with the start prefix has no kind: its form is wrong, or its configuration
      rw [Marker.classify] at h
      split at h
      · next rest hrest =>
        have hline := Marker.isPrefixOf?_eq_some_iff.1 hrest
        split at h
        · next hblob =>
          cases h
          exact .form hline (Marker.blob?_eq_none_iff.1 hblob)
        · next blob hblob =>
          cases hconfig : RegionConfig.ofBlob blob with
          | ok config =>
            rw [hconfig] at h
            cases h
          | error fault =>
            rw [hconfig] at h
            cases h
            exact .config hline hblob hconfig
      · cases h
    · exact .unopened (Family.role_eq_closes_iff.1 hrole) hcount

/-- Whether lines are free of faults is told from each of them and the counts in front of it. -/
theorem clean_iff : Clean f lines ↔ ∀ i : Fin lines.length,
    (Marker.classify f lines[i]).toOption.isSome = true ∧
      (f.role lines[i] = .closes →
        f.count .closes (lines.take i) ≠ f.count .opens (lines.take i)) := by
  constructor
  · intro h i
    have hcut : lines = lines.take i ++ lines[i] :: lines.drop (i + 1) := by
      rw [Fin.getElem_fin, ← List.drop_eq_getElem_cons i.isLt, List.take_append_drop]
    constructor
    · cases hkind : Marker.classify f lines[i] with
      | ok kind => rfl
      | error fault =>
        exact absurd (lineFault_iff.2 (.inl ⟨fault, hkind, rfl⟩)) (h _ _ _ _ hcut)
    · intro hrole hcount
      exact h _ _ _ _ hcut (lineFault_iff.2 (.inr ⟨hrole, hcount, rfl⟩))
  · rintro h front line back e rfl hfault
    have hi := h ⟨front.length, by simp⟩
    simp only [Fin.getElem_fin, List.getElem_append_right (Nat.le_refl _), Nat.sub_self,
      List.getElem_cons_zero, List.take_left] at hi
    rcases lineFault_iff.1 hfault with ⟨fault, hkind, -⟩ | ⟨hrole, hcount, -⟩
    · rw [hkind] at hi
      cases hi.1
    · exact hi.2 hrole hcount

instance (f : Family) (lines : List Text) : Decidable (Clean f lines) :=
  decidable_of_iff' _ clean_iff

variable {pending : List OpenRegion}

/-- The scan stops at a faulty line. -/
theorem Numbered.pairMarkers_of_lineFault (h : Numbered f front pending)
    (hfault : LineFault f front line e) (offset : Nat) (back : List Text) :
    pairMarkers f pending offset (line :: back) = .error e := by
  rcases lineFault_iff.1 hfault with ⟨fault, hkind, rfl⟩ | ⟨hrole, hcount, rfl⟩
  · exact pairMarkers_of_classify_error hkind
  · -- as many regions were closed as were opened, so none is pending
    have hlength := h.length_eq
    obtain rfl : pending = [] := List.length_eq_zero_iff.1 (by omega)
    exact pairMarkers_of_closes_nil hrole

/-- The scan goes on behind a line that is not faulty, with some regions closed. -/
theorem Numbered.exists_of_not_lineFault (h : Numbered f front pending)
    (hline : ∀ e, ¬ LineFault f front line e) :
    ∃ pending' closed, Numbered f (front ++ [line]) pending' ∧ ∀ back,
      pairMarkers f pending (Text.unlines front).byteLength (line :: back) =
        (pairMarkers f pending' (Text.unlines (front ++ [line])).byteLength back).map
          (closed ++ ·) := by
  have hmap : ∀ x : Except Error (List Region), x = x.map ([] ++ ·) := by
    intro x
    cases x <;> rfl
  rw [Text.byteLength_unlines_snoc]
  cases hrole : f.role line with
  | opens =>
    rcases Marker.classify_of_opens hrole with ⟨fault, hfault⟩ | ⟨config, hkind⟩
    · exact absurd (lineFault_iff.2 (.inl ⟨fault, hfault, rfl⟩)) (hline _)
    · refine ⟨_, [], h.opens hkind, fun back => ?_⟩
      rw [pairMarkers_of_opening hkind, ← hmap]
  | closes =>
    cases pending with
    | nil =>
      have hcount : f.count .closes front = f.count .opens front := h.length_eq
      exact absurd (lineFault_iff.2 (.inr ⟨hrole, hcount, rfl⟩)) (hline _)
    | cons oldest pending =>
      refine ⟨pending, [oldest.close f line ((Text.unlines front).byteLength + line.byteLength)],
        (h.closes hrole).2, fun back => ?_⟩
      rw [pairMarkers_of_closes hrole]
      rfl
  | content =>
    refine ⟨_, [], h.content hrole, fun back => ?_⟩
    rw [pairMarkers_of_content hrole, ← hmap]

/-! ## All lines -/

/-- **The scan goes on behind lines without a fault**, with the regions pending that the counts
    tell. -/
theorem Numbered.exists_of_clean (h : Clean f lines) :
    ∃ pending closed, Numbered f lines pending ∧ ∀ back,
      pairMarkers f [] 0 (lines ++ back) =
        (pairMarkers f pending (Text.unlines lines).byteLength back).map (closed ++ ·) := by
  -- the last line is split off: whether it is faulty depends on those in front of it
  induction lines using List.reverseRecOn with
  | nil =>
    refine ⟨[], [], numbered_nil, fun back => ?_⟩
    show pairMarkers f [] 0 back = (pairMarkers f [] 0 back).map ([] ++ ·)
    cases pairMarkers f [] 0 back <;> rfl
  | append_singleton lines line ih =>
    obtain ⟨pending, closed, hpending, hrun⟩ := ih h.left
    obtain ⟨pending', closed', hpending', hstep⟩ := hpending.exists_of_not_lineFault h.not_lineFault
    refine ⟨pending', closed ++ closed', hpending', fun back => ?_⟩
    rw [List.append_assoc, List.singleton_append, hrun, hstep]
    cases pairMarkers f pending' (Text.unlines (lines ++ [line])).byteLength back with
    | error e => rfl
    | ok regions => simp [Except.map]

/-- The regions pending have the start markers that are not counted off by the end markers. -/
theorem Numbered.map_startMarker (h : Numbered f front pending) :
    pending.map OpenRegion.startMarker = (f.openers front).drop (f.count .closes front) := by
  have hopeners : ∀ lines, (f.openers lines).length = f.count .opens lines := by
    intro lines
    rw [Family.openers, Family.count, List.countP_eq_length_filter]
  have hlength := h.length_eq
  -- place by place: the region at a place is the one opened by the start marker of that number
  apply List.ext_getElem?
  intro i
  rw [List.getElem?_map, List.getElem?_drop]
  cases hp : pending[i]? with
  | none =>
    have hle := List.getElem?_eq_none_iff.1 hp
    symm
    apply List.getElem?_eq_none
    rw [hopeners]
    omega
  | some p =>
    -- in front of the start marker there are as many others as its number says
    obtain ⟨before, after, hfront, hcount, -⟩ := (h.number i p hp).exists_cut
    have hrole := Marker.role_of_classify_opening (h.number i p hp).opens
    have hcut : f.openers front = f.openers before ++ p.startMarker :: f.openers after := by
      rw [hfront, Family.openers, List.filter_append, List.filter_cons_of_pos (by simp [hrole])]
      rfl
    rw [hcut, ← hcount, ← hopeners, List.getElem?_append_right (Nat.le_refl _), Nat.sub_self]
    rfl

/-! ## The verdict -/

/-- **The verdict on a document**.

    * If a line is faulty and none before it is, the scan fails with its fault. Either there is such
      a line, or no line is faulty.
    * If no line is faulty, there are no more end markers than start markers. If there are less, the
      scan fails and lists the start markers that are left, all but the first ones; if there are as
      many, it succeeds.
    * The scan is the same as with a ledger, in which no entry is left without an end marker if none
      is open behind the last line. -/
theorem scan_verdict (f : Family) (document : Text) :
    (∀ front line back e, document.lines = front ++ line :: back → Clean f front →
      LineFault f front line e → scan f document = .error e) ∧
    (Clean f document.lines ∨ ∃ front line back e, document.lines = front ++ line :: back ∧
      Clean f front ∧ LineFault f front line e) ∧
    (Clean f document.lines →
      (f.count .closes document.lines < f.count .opens document.lines →
        scan f document = .error (.startWithoutEnd
          ((f.openers document.lines).drop (f.count .closes document.lines)))) ∧
      (¬ f.count .closes document.lines < f.count .opens document.lines →
        ∃ regions, scan f document = .ok regions)) ∧
    Ledger.scan f document = scan f document ∧
    ∀ ledger, Ledger.readAll f {} 0 document.lines = .ok ledger → ledger.queue = [] →
      ∀ entry ∈ ledger.entries, ∃ r, entry.toRegion f = .ok r := by
  refine ⟨?_, clean_or_exists_lineFault f document.lines, ?_, Ledger.scan_eq f document,
    fun ledger hread hqueue => Ledger.exists_region_of_readAll hread hqueue⟩
  · intro front line back e hlines hclean hfault
    obtain ⟨pending, closed, hpending, hrun⟩ := Numbered.exists_of_clean hclean
    rw [scan, hlines, hrun, hpending.pairMarkers_of_lineFault hfault]
    rfl
  · intro hclean
    obtain ⟨pending, closed, hpending, hrun⟩ := Numbered.exists_of_clean hclean
    have hlength := hpending.length_eq
    have hscan := hrun []
    rw [List.append_nil] at hscan
    constructor
    · intro hlt
      rw [scan, hscan, ← hpending.map_startMarker]
      cases pending with
      | nil =>
        rw [List.length_nil] at hlength
        omega
      | cons oldest pending =>
        rw [pairMarkers_nil_of_pending]
        rfl
    · intro hge
      obtain rfl : pending = [] := List.length_eq_zero_iff.1 (by omega)
      rw [scan, hscan, pairMarkers]
      exact ⟨_, rfl⟩

/-- The verdicts on a document whose second marker asks for no rows, on one in which the second of
    two start markers is left, and on one in which two regions overlap. -/
theorem scan_verdict_samples :
    scan .tracks (Text.joinLines ["<!--START_LASTFM_TRACKS-->",
      "<!--START_LASTFM_TRACKS:\x7b\"rows\": 0\x7d-->", "<!--END_LASTFM_TRACKS-->"]) =
        .error (.malformedConfiguration "<!--START_LASTFM_TRACKS:\x7b\"rows\": 0\x7d-->"
          (.rowsOutOfRange 0)) ∧
    scan .tracks (Text.joinLines ["<!--START_LASTFM_TRACKS-->",
      "<!--START_LASTFM_TRACKS:\x7b\x7d-->", "<!--END_LASTFM_TRACKS-->"]) =
        .error (.startWithoutEnd ["<!--START_LASTFM_TRACKS:\x7b\x7d-->"]) ∧
    ∃ regions, scan .tracks Sample.overlappingDocument = .ok regions := by
  refine ⟨?_, ?_, ?_⟩
  · refine (scan_verdict _ _).1 ["<!--START_LASTFM_TRACKS-->"] _ ["<!--END_LASTFM_TRACKS-->"] _
      (by decide +kernel) (by decide +kernel) (lineFault_iff.2 (.inl ⟨_, ?_, rfl⟩))
    decide +kernel
  · rw [((scan_verdict _ _).2.2.1 (by decide +kernel)).1 (by decide +kernel)]
    decide +kernel
  · exact ((scan_verdict _ _).2.2.1 (by decide +kernel)).2 (by decide +kernel)

end ListeningCharts
