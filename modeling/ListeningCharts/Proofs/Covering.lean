import ListeningCharts.Proofs.Rewriting
import ListeningCharts.Proofs.Stretches

/-! # Covering

    Which characters of a document lie inside the span of a region of some families can be told from
    its lines alone: those of a line at which such a region is open before it or after it, and a
    line feed at which one is open (`marks_of_scan`).

    * **A rewrite keeps what is outside**: it takes place where a region is open, so the characters
      that are left, and the blanks between them, stay as they are (`stretches_rewrite`).
    * **Outside the regions nothing changes**: a document and what it is rewritten to leave the same
      pieces when the spans of their own regions are deleted (`outside_rewrites`).
-/

namespace ListeningCharts

/-! ## Counts of all families -/

/-- How many regions of each family are open. -/
abbrev Counts := Family → Nat

namespace Counts

def after (counts : Counts) (line : Text) : Counts := fun f => f.after (counts f) line

def afterAll (counts : Counts) (lines : List Text) : Counts := lines.foldl after counts

/-- Whether no region of the families is open. -/
def isZero (counts : Counts) (families : List Family) : Bool := families.all fun f => counts f == 0

theorem isZero_iff {counts : Counts} {families : List Family} :
    counts.isZero families = true ↔ ∀ f ∈ families, counts f = 0 := by
  simp only [isZero, List.all_eq_true, beq_iff_eq]

theorem isZero_eq_false {counts : Counts} {families : List Family} {f : Family} (hf : f ∈ families)
    (h : counts f ≠ 0) : counts.isZero families = false := by
  rw [← Bool.not_eq_true, isZero_iff]
  exact fun hall => h (hall f hf)

theorem isZero_congr {counts counts' : Counts} {families : List Family}
    (h : ∀ f ∈ families, counts f = counts' f) :
    counts.isZero families = counts'.isZero families := by
  rw [Bool.eq_iff_iff, isZero_iff, isZero_iff]
  exact forall₂_congr fun f hf => by rw [h f hf]

theorem afterAll_eq {counts : Counts} {f : Family} {lines : List Text} {d : Nat}
    (h : depth f (counts f) lines = some d) : counts.afterAll lines f = d := by
  induction lines generalizing counts with
  | nil => exact Option.some.inj h
  | cons line lines ih =>
    have hrest : (counts.after line).afterAll lines f = d := ih (depth_cons_eq_some h).2
    exact hrest

theorem afterAll_of_neutral {counts : Counts} {f : Family} {lines : List Text}
    (h : Neutral f lines) : counts.afterAll lines f = counts f :=
  afterAll_eq (depth_neutral h (counts f))

end Counts

/-! ## Marks of lines -/

/-- The characters of a text, all of them blanked out if it is covered. -/
def blank (covered : Bool) (t : Text) : List (Option Char) :=
  t.map fun c => if covered then none else some c

/-- The characters of lines with a line feed before each of them, those inside a region of the
    families blanked out. -/
def lineMarks (families : List Family) : Counts → List Text → List (Option Char)
  | _, [] => []
  | counts, line :: lines =>
    blank (!counts.isZero families) ['\n'] ++
      (blank (!(counts.isZero families && (counts.after line).isZero families)) line ++
        lineMarks families (counts.after line) lines)

variable {families : List Family} {counts counts' : Counts} {lines lines' : List Text}

theorem lineMarks_congr (h : ∀ f ∈ families, counts f = counts' f) :
    lineMarks families counts lines = lineMarks families counts' lines := by
  induction lines generalizing counts counts' with
  | nil => rfl
  | cons line lines ih =>
    have hafter : ∀ f ∈ families, counts.after line f = counts'.after line f := fun f hf => by
      rw [Counts.after, Counts.after, h f hf]
    rw [lineMarks, lineMarks, Counts.isZero_congr h, Counts.isZero_congr hafter, ih hafter]

theorem lineMarks_append (counts : Counts) (front back : List Text) :
    lineMarks families counts (front ++ back) =
      lineMarks families counts front ++ lineMarks families (counts.afterAll front) back := by
  induction front generalizing counts with
  | nil => rfl
  | cons line front ih =>
    rw [List.cons_append, lineMarks, lineMarks, ih]
    simp only [List.append_assoc]
    rfl

/-- While a region stays open, everything is covered. -/
theorem eq_none_of_open {f : Family} (hf : f ∈ families) (hopen : counts f ≠ 0)
    (hlines : ∀ l ∈ lines, f.role l = .content) :
    ∀ m ∈ lineMarks families counts lines, m = none := by
  induction lines generalizing counts with
  | nil => simp [lineMarks]
  | cons line lines ih =>
    obtain ⟨hline, hlines⟩ := List.forall_mem_cons.1 hlines
    have hafter : counts.after line f ≠ 0 := by rwa [Counts.after, after_of_content hline]
    intro m hm
    rw [lineMarks, Counts.isZero_eq_false hf hopen] at hm
    rcases List.mem_append.1 hm with hm | hm
    · simpa [blank] using hm
    · rcases List.mem_append.1 hm with hm | hm
      · obtain ⟨c, -, rfl⟩ := List.mem_map.1 hm
        rfl
      · exact ih hafter hlines m hm

/-- A line feed is covered where a region is open. -/
theorem lineMarks_cons_of_open {f : Family} (hf : f ∈ families) (hopen : counts f ≠ 0) (line : Text)
    (lines : List Text) : ∃ marked, lineMarks families counts (line :: lines) = none :: marked := by
  rw [lineMarks, Counts.isZero_eq_false hf hopen]
  exact ⟨_, rfl⟩

/-- **A rewrite keeps what is outside the regions**. -/
theorem stretches_rewrite (h : Rewrite families lines lines')
    (hneutral : ∀ f ∈ families, Neutral f lines) :
    Text.stretches (lineMarks families (fun _ => 0) lines).tail =
      Text.stretches (lineMarks families (fun _ => 0) lines').tail := by
  obtain ⟨f, hf, front, mid, new, back, d, rfl, rfl, hfront, hcontent, hmid, hnew⟩ := h.parts
  have hcount : Counts.afterAll (fun _ => 0) front f = d + 1 := Counts.afterAll_eq hfront
  have hopen : Counts.afterAll (fun _ => 0) front f ≠ 0 := by omega
  -- a region is open at both ends of the stretch, so what is in it is blank before and after
  cases front with
  | nil => simp at hfront
  | cons first front =>
    cases back with
    | nil =>
      -- the region that is open has to be closed
      have hdepth := hneutral f hf
      rw [Neutral, depth_append_neutral (hmid f hf), List.append_nil, hfront] at hdepth
      cases hdepth
    | cons last back =>
      obtain ⟨marked, hmarked⟩ := lineMarks_cons_of_open hf hopen last back
      have hparts : ∀ inside : List Text, (∀ g ∈ families, Neutral g inside) →
          (∀ l ∈ inside, f.role l = .content) →
          Text.stretches (lineMarks families (fun _ => 0)
              (first :: front ++ inside ++ last :: back)).tail =
            Text.stretches (lineMarks families (fun _ => 0) (first :: front)).tail ++
              Text.stretches marked := by
        intro inside hinside hrole
        have hblanks := eq_none_of_open hf hopen hrole
        have hne : lineMarks families (fun _ => 0) (first :: front) ≠ [] := by
          simp [lineMarks, blank]
        have hcounts : ∀ g ∈ families,
            (Counts.afterAll (fun _ => 0) (first :: front)).afterAll inside g =
              Counts.afterAll (fun _ => 0) (first :: front) g :=
          fun g hg => Counts.afterAll_of_neutral (hinside g hg)
        rw [List.append_assoc, lineMarks_append, lineMarks_append, lineMarks_congr hcounts, hmarked,
          List.tail_append_of_ne_nil hne, ← List.append_assoc, Text.stretches_append_blanks hblanks]
      rw [hparts mid hmid hcontent,
        hparts new (fun g _ => neutral_of_plain hnew g) fun l hl => (hnew l hl).content f]

/-! ## Marks of a document -/

section Document

variable {f : Family} {pending : List OpenRegion} {offset : Nat} {line : Text}
  {regions : List Region}

/-- Regions that are read from a byte on, with none pending, start there or later. -/
theorem Pairing.offset_le_start (h : Pairing f [] offset lines regions) :
    ∀ r ∈ regions, offset ≤ r.span.start := by
  obtain ⟨mine, others, rfl, hstarts, hothers⟩ := h.exists_eq_append
  obtain rfl : mine = [] := by simpa using hstarts
  simpa using hothers

/-- While a region is pending, one that has started goes on. -/
theorem Pairing.exists_open (h : Pairing f pending offset lines regions) {pos : Nat}
    (hstarts : ∀ p ∈ pending, p.start ≤ pos) (hne : pending.length ≠ 0) :
    ∃ r ∈ regions, r.span.start ≤ pos ∧ offset < r.span.stop := by
  obtain ⟨p, hp⟩ := List.exists_mem_of_length_pos (Nat.pos_of_ne_zero hne)
  obtain ⟨r, hr, hstart⟩ := h.exists_mem_of_pending hp
  exact ⟨r, hr, hstart ▸ hstarts p hp, h.offset_lt_stop r hr⟩

/-- The bytes of a line are covered if a region is open before it or after it. -/
theorem Pairing.covers_line (h : Pairing f pending offset (line :: lines) regions)
    (hstarts : ∀ p ∈ pending, p.start < offset) {pos : Nat} (hpos : offset ≤ pos)
    (hlt : pos < offset + line.byteLength) :
    (∃ r ∈ regions, r.span.start ≤ pos ∧ pos < r.span.stop) ↔
      ¬ (pending.length = 0 ∧ f.after pending.length line = 0) := by
  obtain ⟨pending', regions', hrest, hlength, hstarts', hsub, hclosed⟩ := h.exists_next hstarts
  rw [← hlength]
  constructor
  · rintro ⟨r, hr, hstart, -⟩ ⟨hzero, hzero'⟩
    obtain rfl := List.length_eq_zero_iff.1 hzero'
    rcases hclosed r hr with hr | ⟨-, hne⟩
    · have := hrest.offset_le_start r hr
      omega
    · exact hne (List.length_eq_zero_iff.1 hzero)
  · intro hopen
    by_cases hzero : pending.length = 0
    -- the line opens a region
    · obtain ⟨r, hr, hstart, hstop⟩ := hrest.exists_open hstarts' (by omega)
      exact ⟨r, hsub r hr, by omega, by omega⟩
    -- a region was open before the line, and is closed here at the earliest
    · obtain ⟨r, hr, hstart, -⟩ := h.exists_open (fun p hp => Nat.le_of_lt (hstarts p hp)) hzero
      refine ⟨r, hr, by omega, ?_⟩
      rcases hclosed r hr with hr | ⟨hstop, -⟩
      · have := hrest.offset_lt_stop r hr
        omega
      · omega

/-- The line feed behind a line is covered if a region is open there. -/
theorem Pairing.covers_lineFeed (h : Pairing f pending offset (line :: lines) regions)
    (hstarts : ∀ p ∈ pending, p.start < offset) :
    (∃ r ∈ regions, r.span.start ≤ offset + line.byteLength ∧
      offset + line.byteLength < r.span.stop) ↔ f.after pending.length line ≠ 0 := by
  obtain ⟨pending', regions', hrest, hlength, hstarts', hsub, hclosed⟩ := h.exists_next hstarts
  rw [← hlength]
  constructor
  · rintro ⟨r, hr, hstart, hstop⟩ hzero
    obtain rfl := List.length_eq_zero_iff.1 hzero
    rcases hclosed r hr with hr | ⟨hstop', -⟩
    · have := hrest.offset_le_start r hr
      omega
    · omega
  · intro hopen
    obtain ⟨r, hr, hstart, hstop⟩ := hrest.exists_open hstarts' hopen
    exact ⟨r, hsub r hr, by omega, by omega⟩

theorem marks_eq_blank {covered : Nat → Bool} {pos : Nat} {t : Text} {b : Bool}
    (h : ∀ p, pos ≤ p → p < pos + t.byteLength → covered p = b) :
    Text.marks covered pos t = blank b t := by
  cases b with
  | true => exact Text.marks_of_covered h
  | false => exact Text.marks_of_uncovered h

section Families

/-- Lines that are read with some regions pending for each family, where the regions that they close
    cover the bytes from there on. -/
structure Covering (families : List Family) (covered : Nat → Bool)
    (pending : Family → List OpenRegion) (offset : Nat) (lines : List Text)
    (regions : Family → List Region) : Prop where
  pairing : ∀ f ∈ families, Pairing f (pending f) offset lines (regions f)
  starts : ∀ f ∈ families, ∀ p ∈ pending f, p.start < offset
  covered_iff : ∀ pos, offset ≤ pos → (covered pos = true ↔
    ∃ f ∈ families, ∃ r ∈ regions f, r.span.start ≤ pos ∧ pos < r.span.stop)

/-- How many regions of each family are pending. -/
def pendingCounts (pending : Family → List OpenRegion) : Counts := fun f => (pending f).length

namespace Covering

variable {covered : Nat → Bool} {pending : Family → List OpenRegion}
  {regions : Family → List Region}

/-- The characters of a line are blanked out if some region is open before the line or after it. -/
theorem marks_line (h : Covering families covered pending offset (line :: lines) regions) :
    Text.marks covered offset line =
      blank (!((pendingCounts pending).isZero families &&
        ((pendingCounts pending).after line).isZero families)) line := by
  refine marks_eq_blank fun pos hpos hlt => ?_
  have hline := fun f hf => (h.pairing f hf).covers_line (h.starts f hf) hpos hlt
  rw [Bool.eq_iff_iff, h.covered_iff pos hpos, Bool.not_eq_true', ← Bool.not_eq_true,
    Bool.and_eq_true, Counts.isZero_iff, Counts.isZero_iff]
  constructor
  · rintro ⟨f, hf, hr⟩ ⟨hbefore, hafter⟩
    exact (hline f hf).1 hr ⟨hbefore f hf, hafter f hf⟩
  · intro hopen
    by_contra hnone
    refine hopen ⟨fun f hf => ?_, fun f hf => ?_⟩
    · by_contra hne
      exact hnone ⟨f, hf, (hline f hf).2 fun hzero => hne hzero.1⟩
    · by_contra hne
      exact hnone ⟨f, hf, (hline f hf).2 fun hzero => hne hzero.2⟩

/-- The line feed behind a line is blanked out if some region is open after the line. -/
theorem covered_lineFeed (h : Covering families covered pending offset (line :: lines) regions) :
    covered (offset + line.byteLength) =
      !((pendingCounts pending).after line).isZero families := by
  have hfeed := fun f hf => (h.pairing f hf).covers_lineFeed (h.starts f hf)
  rw [Bool.eq_iff_iff, h.covered_iff _ (Nat.le_add_right _ _), Bool.not_eq_true',
    ← Bool.not_eq_true, Counts.isZero_iff]
  constructor
  · rintro ⟨f, hf, hr⟩ hzero
    exact (hfeed f hf).1 hr (hzero f hf)
  · intro hopen
    by_contra hnone
    refine hopen fun f hf => ?_
    by_contra hne
    exact hnone ⟨f, hf, (hfeed f hf).2 hne⟩

/-- Behind a line, the regions that the other lines close still cover the bytes: those closed by the
    line end before them. -/
theorem exists_next (h : Covering families covered pending offset (line :: lines) regions) :
    ∃ pending' regions',
      Covering families covered pending' (offset + line.byteLength + 1) lines regions' ∧
        ∀ f ∈ families, pendingCounts pending' f = (pendingCounts pending).after line f := by
  have hnext : ∀ f, ∃ pending' regions', f ∈ families →
      Pairing f pending' (offset + line.byteLength + 1) lines regions' ∧
      pending'.length = f.after (pending f).length line ∧ (∀ p ∈ pending', p.start ≤ offset) ∧
      (∀ r ∈ regions', r ∈ regions f) ∧ ∀ r ∈ regions f,
        r ∈ regions' ∨ r.span.stop = offset + line.byteLength ∧ pending f ≠ [] := by
    intro f
    by_cases hf : f ∈ families
    · obtain ⟨pending', regions', hparts⟩ := (h.pairing f hf).exists_next (h.starts f hf)
      exact ⟨pending', regions', fun _ => hparts⟩
    · exact ⟨[], [], fun hf' => absurd hf' hf⟩
  choose pending' regions' hnext using hnext
  refine ⟨pending', regions', ⟨fun f hf => (hnext f hf).1, fun f hf p hp => ?_, fun pos hpos => ?_⟩,
    fun f hf => (hnext f hf).2.1⟩
  · exact Nat.lt_succ_of_le (Nat.le_add_right_of_le ((hnext f hf).2.2.1 p hp))
  · rw [h.covered_iff pos (by omega)]
    constructor
    · rintro ⟨f, hf, r, hr, hstart, hstop⟩
      rcases (hnext f hf).2.2.2.2 r hr with hr | ⟨hstop', -⟩
      · exact ⟨f, hf, r, hr, hstart, hstop⟩
      · omega
    · rintro ⟨f, hf, r, hr, hin⟩
      exact ⟨f, hf, r, (hnext f hf).2.2.2.1 r hr, hin⟩

/-- The marks of lines that are read with some regions pending are the marks of their text. -/
theorem marks_eq (h : Covering families covered pending offset (line :: lines) regions) :
    Text.marks covered offset (line ++ Text.onlines lines) =
      (lineMarks families (pendingCounts pending) (line :: lines)).tail := by
  induction lines generalizing line offset pending regions with
  | nil =>
    rw [Text.onlines_nil, List.append_nil, h.marks_line]
    simp [lineMarks, blank]
  | cons next lines ih =>
    obtain ⟨pending', regions', hnext, hcounts⟩ := h.exists_next
    have htail := ih hnext
    rw [lineMarks_congr hcounts] at htail
    rw [Text.marks_append, h.marks_line, Text.onlines_cons, List.cons_append, Text.marks,
      Text.utf8Size_lineFeed, htail, h.covered_lineFeed]
    rfl

end Covering

end Families

/-- The regions that the scans of some families find cover the document. -/
theorem covering_of_scan {document : Text} {found : Family → List Region}
    (h : ∀ f ∈ families, scan f document = .ok (found f)) :
    Covering families (coveredBy ((families.flatMap found).map Region.span)) (fun _ => []) 0
      document.lines found := by
  refine ⟨fun f hf => scan_eq_ok_iff.1 (h f hf), by simp, fun pos _ => ?_⟩
  rw [coveredBy_iff]
  simp only [List.mem_map, List.mem_flatMap, exists_exists_and_eq_and]
  constructor
  · rintro ⟨r, ⟨f, hf, hr⟩, hin⟩
    exact ⟨f, hf, r, hr, hin⟩
  · rintro ⟨f, hf, r, hr, hin⟩
    exact ⟨r, ⟨f, hf, hr⟩, hin⟩

/-- **The spans of the regions of some families are told by the lines**. -/
theorem marks_of_scan {document : Text} {found : Family → List Region}
    (h : ∀ f ∈ families, scan f document = .ok (found f)) :
    Text.marks (coveredBy ((families.flatMap found).map Region.span)) 0 document =
      (lineMarks families (fun _ => 0) document.lines).tail := by
  have hcovering := covering_of_scan h
  obtain ⟨line, lines, hlines⟩ := List.exists_cons_of_ne_nil (Text.lines_ne_nil document)
  have hdocument : document = line ++ Text.onlines lines := by
    rw [← Text.joinLines_cons, ← hlines, Text.joinLines_lines]
  rw [hlines] at hcovering
  have hmarks := hcovering.marks_eq
  rw [← hdocument, ← hlines] at hmarks
  exact hmarks

end Document

/-! ## Outside the regions -/

/-- **Outside the regions nothing changes**: what is left of the lines when the spans of the regions
    of some families are deleted is left of every document that they are rewritten to. -/
theorem outside_rewrites {document updated : Text} {found found' : Family → List Region}
    (hscan : ∀ f ∈ families, scan f document = .ok (found f))
    (hscan' : ∀ f ∈ families, scan f updated = .ok (found' f))
    (h : Rewrites families document.lines updated.lines) :
    document.outside ((families.flatMap found).map Region.span) =
      updated.outside ((families.flatMap found').map Region.span) := by
  have haccepted := Accepted.of_scan fun f hf => ⟨_, hscan f hf⟩
  rw [Text.outside, Text.outside, marks_of_scan hscan, marks_of_scan hscan']
  generalize document.lines = lines at *
  generalize updated.lines = lines' at *
  induction h with
  | refl => rfl
  | tail hsteps hstep ih =>
    rw [ih, stretches_rewrite hstep (haccepted.rewrites hsteps).neutral]

/-- Lines that are rewritten for one family have regions of it again, with the same text outside. -/
theorem exists_scan_of_rewrites {f : Family} {document updated : Text} {regions : List Region}
    (hscan : scan f document = .ok regions) (h : Rewrites [f] document.lines updated.lines) :
    ∃ regions', scan f updated = .ok regions' ∧
      updated.outside (regions'.map Region.span) = document.outside (regions.map Region.span) := by
  have haccepted : Accepted [f] document.lines := .of_scan (by simpa using ⟨regions, hscan⟩)
  obtain ⟨regions', hscan'⟩ := (haccepted.rewrites h).exists_scan List.mem_cons_self
  have houtside : document.outside (([f].flatMap fun _ => regions).map Region.span) =
      updated.outside (([f].flatMap fun _ => regions').map Region.span) :=
    outside_rewrites (by simpa using hscan) (by simpa using hscan') h
  simp only [List.flatMap_cons, List.flatMap_nil, List.append_nil] at houtside
  exact ⟨regions', hscan', houtside.symm⟩

end ListeningCharts
