import ListeningCharts.Proofs.Depth
import ListeningCharts.Sample
import Mathlib.Data.List.Induction

/-! # Regions by number

    First in, first out: the first end marker closes the first region, the second one the second, and
    so on, whatever stands between them. So a region can be told from its number alone, by counting
    lines, without following the scan.

    * **Counting**: how many of the lines in front of a place open a region and how many close one
      (`Family.count`), and the content where these counts have given values (`Family.contentAt`).
    * **The queue**: behind some lines, the regions pending are those whose start marker was counted
      and whose end marker was not, in the order of their numbers (`Numbered`). One line of each role
      keeps this.
    * **The law**: every region of a document has the markers, the span, the line and the body that
      its number tells (`pairing_law`).
-/

namespace ListeningCharts

/-! ## Counting -/

namespace Family

/-- How many of some lines have a role. -/
def count (f : Family) (role : Role) (lines : List Text) : Nat :=
  lines.countP fun line => f.role line = role

/-- The lines of content that stand behind this many opening lines and this many closing lines, in
    their order. -/
def contentAt (f : Family) (opened closed : Nat) (lines : List Text) : List Text :=
  (lines.zipIdx.filter fun entry => f.role entry.1 = .content ∧
    f.count .opens (lines.take entry.2) = opened ∧
    f.count .closes (lines.take entry.2) = closed).map Prod.fst

variable {f : Family} {role : Role} {opened closed : Nat} {line : Text} {front back : List Text}

@[simp] theorem count_nil : f.count role [] = 0 := rfl

@[simp] theorem count_append :
    f.count role (front ++ back) = f.count role front + f.count role back := by
  unfold count
  exact List.countP_append

theorem count_cons :
    f.count role (line :: back) = f.count role back + if f.role line = role then 1 else 0 := by
  unfold count
  rw [List.countP_cons]
  simp only [decide_eq_true_eq]

/-- A line with the role is counted. -/
theorem count_cons_self (h : f.role line = role) :
    f.count role (line :: back) = f.count role back + 1 := by
  rw [count_cons, if_pos h]

theorem count_cons_of_ne (h : f.role line ≠ role) :
    f.count role (line :: back) = f.count role back := by
  rw [count_cons, if_neg h, Nat.add_zero]

theorem count_snoc_self (h : f.role line = role) :
    f.count role (front ++ [line]) = f.count role front + 1 := by
  rw [count_append, count_cons_self h, count_nil]

theorem count_snoc_of_ne (h : f.role line ≠ role) :
    f.count role (front ++ [line]) = f.count role front := by
  rw [count_append, count_cons_of_ne h, count_nil, Nat.add_zero]

theorem count_eq_zero (h : ∀ l ∈ back, f.role l ≠ role) : f.count role back = 0 := by
  unfold count
  rw [List.countP_eq_zero]
  intro l hl
  simpa using h l hl

/-- One more line belongs to the content if the counts in front of it are right. -/
theorem contentAt_snoc : f.contentAt opened closed (front ++ [line]) =
    f.contentAt opened closed front ++
      if f.role line = .content ∧ f.count .opens front = opened ∧ f.count .closes front = closed
        then [line] else [] := by
  unfold contentAt
  rw [List.zipIdx_append, List.filter_append, List.map_append]
  congr 1
  · -- the line behind them does not change what stands in front of the others
    refine congrArg (List.map Prod.fst) (List.filter_congr fun entry hentry => ?_)
    have hlt : entry.2 ≤ front.length := by
      have h := List.snd_lt_of_mem_zipIdx hentry
      omega
    rw [List.take_append_of_le_length hlt]
  · simp only [List.zipIdx_singleton, Nat.zero_add, List.filter_cons, List.filter_nil,
      List.take_left, decide_eq_true_eq]
    split <;> rfl

theorem contentAt_snoc_of_marker (h : f.role line ≠ .content) :
    f.contentAt opened closed (front ++ [line]) = f.contentAt opened closed front := by
  rw [contentAt_snoc, if_neg fun hline => h hline.1, List.append_nil]

/-- Nothing stands behind more opening lines than there are. -/
theorem contentAt_of_opens_lt (h : f.count .opens front < opened) :
    f.contentAt opened closed front = [] := by
  induction front using List.reverseRecOn with
  | nil => rfl
  | append_singleton front line ih =>
    rw [count_append] at h
    rw [contentAt_snoc, ih (by omega), if_neg (by omega), List.append_nil]

/-- What follows too many closing lines does not belong to the content. -/
theorem contentAt_append_of_closes_lt (h : closed < f.count .closes front) :
    f.contentAt opened closed (front ++ back) = f.contentAt opened closed front := by
  induction back using List.reverseRecOn with
  | nil => rw [List.append_nil]
  | append_singleton back line ih =>
    rw [← List.append_assoc, contentAt_snoc, ih, count_append, count_append, if_neg (by omega),
      List.append_nil]

end Family

/-! ## Cuts -/

/-- Two cuts of a list are in one order, in the other, or at the same place. -/
theorem append_cons_cases {α : Type} {front rest front' rest' : List α} {x y : α}
    (h : front ++ x :: rest = front' ++ y :: rest') :
    (∃ mid, front' = front ++ x :: mid ∧ rest = mid ++ y :: rest') ∨
      (front = front' ∧ x = y ∧ rest = rest') ∨
        ∃ mid, front = front' ++ y :: mid ∧ rest' = mid ++ x :: rest := by
  rcases List.append_eq_append_iff.1 h with ⟨mid, hfront, hrest⟩ | ⟨mid, hfront, hrest⟩
  · cases mid with
    | nil =>
      obtain ⟨rfl, rfl⟩ := List.cons.inj hrest
      exact .inr (.inl ⟨by simpa using hfront.symm, rfl, rfl⟩)
    | cons z mid =>
      obtain ⟨rfl, rfl⟩ := List.cons.inj hrest
      exact .inl ⟨mid, hfront, rfl⟩
  · cases mid with
    | nil =>
      obtain ⟨rfl, rfl⟩ := List.cons.inj hrest
      exact .inr (.inl ⟨by simpa using hfront, rfl, rfl⟩)
    | cons z mid =>
      obtain ⟨rfl, rfl⟩ := List.cons.inj hrest
      exact .inr (.inr ⟨mid, hfront, rfl⟩)

variable {f : Family} {role : Role} {lines front back front' back' : List Text} {line line' : Text}
  {k : Nat}

/-- The cut with fewer lines of a role in front of it comes first. -/
theorem exists_between (h : lines = front ++ line :: back) (h' : lines = front' ++ line' :: back')
    (hlt : f.count role front < f.count role front') : ∃ mid, front' = front ++ line :: mid := by
  rcases append_cons_cases (h.symm.trans h') with ⟨mid, hmid, -⟩ | ⟨rfl, -, -⟩ | ⟨mid, rfl, -⟩
  · exact ⟨mid, hmid⟩
  · omega
  · rw [Family.count_append] at hlt
    omega

/-- A line of a role is told by its number. -/
theorem eq_of_count_eq (h : lines = front ++ line :: back) (h' : lines = front' ++ line' :: back')
    (hrole : f.role line = role) (hrole' : f.role line' = role)
    (heq : f.count role front = f.count role front') :
    front = front' ∧ line = line' ∧ back = back' := by
  rcases append_cons_cases (h.symm.trans h') with ⟨mid, rfl, -⟩ | hsame | ⟨mid, rfl, -⟩
  · rw [Family.count_append, Family.count_cons_self hrole] at heq
    omega
  · exact hsame
  · rw [Family.count_append, Family.count_cons_self hrole'] at heq
    omega

/-! ## The queue -/

/-- A region that is pending behind some lines: `k` regions were opened before it, and its body is
    the content that stands behind its start marker and behind `k` closing lines. -/
structure OpenRegion.IsNumber (f : Family) (front : List Text) (k : Nat) (p : OpenRegion) :
    Prop where
  exists_cut : ∃ before after, front = before ++ p.startMarker :: after ∧
    f.count .opens before = k ∧ p.start = (Text.unlines before).byteLength
  opens : Marker.classify f p.startMarker = .ok (.opening p.config)
  body_eq : p.bodyLines = f.contentAt (k + 1) k front

/-- The regions pending behind some lines are those that were opened and not closed, in the order of
    their numbers. -/
structure Numbered (f : Family) (front : List Text) (pending : List OpenRegion) : Prop where
  length_eq : f.count .closes front + pending.length = f.count .opens front
  number : ∀ (i : Nat) (p : OpenRegion), pending[i]? = some p →
    p.IsNumber f front (f.count .closes front + i)

section Queue

variable {pending : List OpenRegion} {p oldest : OpenRegion}

/-- A line leaves a pending region as it is, unless it is content at the counts of its body. -/
theorem OpenRegion.IsNumber.pass (h : p.IsNumber f front k) (hline : ¬ (f.role line = .content ∧
    f.count .opens front = k + 1 ∧ f.count .closes front = k)) :
    p.IsNumber f (front ++ [line]) k where
  exists_cut := by
    obtain ⟨before, after, rfl, hcount, hstart⟩ := h.exists_cut
    exact ⟨before, after ++ [line], by simp, hcount, hstart⟩
  opens := h.opens
  body_eq := by rw [Family.contentAt_snoc, if_neg hline, List.append_nil, h.body_eq]

/-- Content at the counts of its body belongs to a pending region. -/
theorem OpenRegion.IsNumber.push (h : p.IsNumber f front k) (hrole : f.role line = .content)
    (hopens : f.count .opens front = k + 1) (hcloses : f.count .closes front = k) :
    (p.push line).IsNumber f (front ++ [line]) k where
  exists_cut := by
    obtain ⟨before, after, rfl, hcount, hstart⟩ := h.exists_cut
    exact ⟨before, after ++ [line], by simp [OpenRegion.push], hcount, hstart⟩
  opens := h.opens
  body_eq := by
    rw [Family.contentAt_snoc, if_pos ⟨hrole, hopens, hcloses⟩, ← h.body_eq]
    rfl

theorem numbered_nil : Numbered f [] [] where
  length_eq := rfl
  number i p hp := by simp at hp

/-- A region that is opened gets the next number. -/
theorem Numbered.opens (h : Numbered f front pending) {config : RegionConfig}
    (hkind : Marker.classify f line = .ok (.opening config)) :
    Numbered f (front ++ [line])
      (pending ++ [{ startMarker := line, start := (Text.unlines front).byteLength, config }]) := by
  have hrole := Marker.role_of_classify_opening hkind
  have hopens : f.count .opens (front ++ [line]) = f.count .opens front + 1 :=
    Family.count_snoc_self hrole
  have hcloses : f.count .closes (front ++ [line]) = f.count .closes front :=
    Family.count_snoc_of_ne (by simp [hrole])
  have hlength := h.length_eq
  constructor
  · rw [hopens, hcloses, List.length_append, List.length_singleton]
    omega
  · intro i p hp
    rw [hcloses]
    rw [List.getElem?_append] at hp
    split at hp
    · exact (h.number i p hp).pass (by simp [hrole])
    · next hle =>
      rw [List.getElem?_singleton] at hp
      split at hp
      swap
      · cases hp
      cases hp
      refine ⟨⟨front, [], rfl, by omega, rfl⟩, hkind, ?_⟩
      -- nothing stands behind the start marker yet
      rw [Family.contentAt_snoc_of_marker (by simp [hrole]),
        Family.contentAt_of_opens_lt (by omega)]

/-- The region that is closed has as its number the count of the regions closed before. -/
theorem Numbered.closes (h : Numbered f front (oldest :: pending)) (hrole : f.role line = .closes) :
    oldest.IsNumber f front (f.count .closes front) ∧ Numbered f (front ++ [line]) pending := by
  have hopens : f.count .opens (front ++ [line]) = f.count .opens front :=
    Family.count_snoc_of_ne (by simp [hrole])
  have hcloses : f.count .closes (front ++ [line]) = f.count .closes front + 1 :=
    Family.count_snoc_self hrole
  have hlength := h.length_eq
  rw [List.length_cons] at hlength
  refine ⟨h.number 0 oldest rfl, by rw [hopens, hcloses]; omega, ?_⟩
  intro i p hp
  rw [hcloses, Nat.add_right_comm]
  exact (h.number (i + 1) p hp).pass (by simp [hrole])

/-- A line of content goes to the only region that is pending, and to none if there are several. -/
theorem Numbered.content (h : Numbered f front pending) (hrole : f.role line = .content) :
    Numbered f (front ++ [line]) (OpenRegion.receive line pending) := by
  have hopens : f.count .opens (front ++ [line]) = f.count .opens front :=
    Family.count_snoc_of_ne (by simp [hrole])
  have hcloses : f.count .closes (front ++ [line]) = f.count .closes front :=
    Family.count_snoc_of_ne (by simp [hrole])
  have hlength := h.length_eq
  constructor
  · rw [hopens, hcloses, length_receive]
    exact hlength
  · intro i p hp
    rw [hcloses]
    match pending, hp with
    | [only], hp =>
      rw [List.length_singleton] at hlength
      rw [OpenRegion.receive, List.getElem?_singleton] at hp
      split at hp
      · next hi =>
        cases hp
        rw [hi]
        exact (h.number 0 only rfl).push hrole (by omega) (by omega)
      · cases hp
    | first :: second :: others, hp =>
      -- with two regions pending, the counts are those of no body
      rw [List.length_cons, List.length_cons] at hlength
      exact (h.number i p hp).pass (by omega)

end Queue

/-! ## Regions -/

/-- A region among the lines of a document: `k` regions are opened before it and `k` are closed
    before it, its span runs from its start marker to its end marker, and its body is the content
    behind `k + 1` opening and `k` closing lines. -/
structure Region.IsNumber (f : Family) (lines : List Text) (k : Nat) (r : Region)
    (front inside back : List Text) : Prop where
  lines_eq : lines = front ++ r.startMarker :: (inside ++ r.endMarker :: back)
  opens : Marker.classify f r.startMarker = .ok (.opening r.config)
  closes : f.role r.endMarker = .closes
  count_opens : f.count .opens front = k
  count_closes : f.count .closes (front ++ r.startMarker :: inside) = k
  start_eq : r.span.start = (Text.unlines front).byteLength
  stop_eq : r.span.stop =
    (Text.unlines (front ++ r.startMarker :: inside)).byteLength + r.endMarker.byteLength
  body_eq : r.bodyLines = f.contentAt (k + 1) k lines

section Regions

variable {pending : List OpenRegion} {p : OpenRegion} {offset : Nat} {regions : List Region}
  {r : Region} {inside : List Text}

/-- The oldest region pending is closed with its number. -/
theorem OpenRegion.IsNumber.close (h : p.IsNumber f front k) (hcount : f.count .closes front = k)
    (hrole : f.role line = .closes) (back : List Text) :
    ∃ front' inside, (p.close f line ((Text.unlines front).byteLength + line.byteLength)).IsNumber f
      (front ++ line :: back) k front' inside back := by
  obtain ⟨before, after, hfront, hbefore, hstart⟩ := h.exists_cut
  -- the closing line is one more than the content of the region has in front of it
  have hlt : k < f.count .closes (front ++ [line]) := by
    rw [Family.count_append, Family.count_cons_self hrole, hcount]
    omega
  have hbody : f.contentAt (k + 1) k (front ++ line :: back) = f.contentAt (k + 1) k front := by
    rw [List.append_cons, Family.contentAt_append_of_closes_lt hlt,
      Family.contentAt_snoc_of_marker (by simp [hrole])]
  refine ⟨before, after, ?_, h.opens, hrole, hbefore, ?_, hstart, ?_, ?_⟩
  · rw [hfront]
    simp [OpenRegion.close]
  · exact hfront ▸ hcount
  · exact hfront ▸ rfl
  · rw [hbody]
    exact h.body_eq

/-- The regions that lines close have the numbers from the count of the regions closed before. -/
theorem Pairing.isNumber (h : Pairing f pending offset lines regions) {front : List Text}
    (hoffset : offset = (Text.unlines front).byteLength) (hpending : Numbered f front pending) :
    ∀ (i : Nat) (r : Region), regions[i]? = some r → ∃ front' inside back,
      r.IsNumber f (front ++ lines) (f.count .closes front + i) front' inside back := by
  induction h generalizing front with
  | done => simp
  | @opens pending offset line lines regions config hkind rest ih =>
    subst hoffset
    have hrole := Marker.role_of_classify_opening hkind
    have h := @ih (front ++ [line]) (Text.byteLength_unlines_snoc front line).symm (hpending.opens hkind)
    rw [Family.count_snoc_of_ne (by simp [hrole])] at h
    simpa using h
  | @closes oldest pending offset line lines regions hrole rest ih =>
    subst hoffset
    obtain ⟨holdest, hothers⟩ := hpending.closes hrole
    intro i r hr
    cases i with
    | zero =>
      cases hr
      obtain ⟨front', inside, hnumber⟩ := holdest.close rfl hrole lines
      exact ⟨front', inside, lines, hnumber⟩
    | succ i =>
      have h := @ih (front ++ [line]) (Text.byteLength_unlines_snoc front line).symm hothers i r hr
      rw [Family.count_snoc_self hrole] at h
      simpa [Nat.add_assoc, Nat.add_comm] using h
  | @content pending offset line lines regions hrole rest ih =>
    subst hoffset
    have h := @ih (front ++ [line]) (Text.byteLength_unlines_snoc front line).symm (hpending.content hrole)
    rw [Family.count_snoc_of_ne (by simp [hrole])] at h
    simpa using h

/-- **The regions of a document have their numbers.** -/
theorem isNumber_of_scan {document : Text} (h : scan f document = .ok regions)
    (hk : regions[k]? = some r) : ∃ front inside back,
      r.IsNumber f document.lines k front inside back := by
  have hoffset : 0 = (Text.unlines []).byteLength := rfl
  have hnumber := (scan_eq_ok_iff.1 h).isNumber hoffset numbered_nil k r hk
  simpa using hnumber

/-! ## Markers in order -/

theorem map_startMarker_receive (line : Text) (pending : List OpenRegion) :
    (OpenRegion.receive line pending).map OpenRegion.startMarker =
      pending.map OpenRegion.startMarker := by
  match pending with
  | [] => rfl
  | [_] => rfl
  | _ :: _ :: _ => rfl

/-- The start markers of the regions are the opening lines, behind those of the regions pending. -/
theorem Pairing.map_startMarker (h : Pairing f pending offset lines regions) :
    regions.map Region.startMarker =
      pending.map OpenRegion.startMarker ++ lines.filter fun line => f.role line = .opens := by
  induction h with
  | done => rfl
  | opens hkind _ ih =>
    rw [ih, List.filter_cons_of_pos (by simp [Marker.role_of_classify_opening hkind]),
      List.map_append, List.append_assoc]
    rfl
  | closes hrole _ ih =>
    rw [List.map_cons, ih, List.filter_cons_of_neg (by simp [hrole])]
    rfl
  | content hrole _ ih =>
    rw [ih, map_startMarker_receive, List.filter_cons_of_neg (by simp [hrole])]

/-- The end markers of the regions are the closing lines. -/
theorem Pairing.map_endMarker (h : Pairing f pending offset lines regions) :
    regions.map Region.endMarker = lines.filter fun line => f.role line = .closes := by
  induction h with
  | done => rfl
  | opens hkind _ ih =>
    rw [ih, List.filter_cons_of_neg (by simp [Marker.role_of_classify_opening hkind])]
  | closes hrole _ ih =>
    rw [List.map_cons, ih, List.filter_cons_of_pos (by simp [hrole])]
    rfl
  | content hrole _ ih => rw [ih, List.filter_cons_of_neg (by simp [hrole])]

theorem length_eq_count_opens {document : Text} (h : scan f document = .ok regions) :
    regions.length = f.count .opens document.lines := by
  have hmap := congrArg List.length (scan_eq_ok_iff.1 h).map_startMarker
  rw [List.length_map, List.map_nil, List.nil_append] at hmap
  rw [hmap, Family.count, List.countP_eq_length_filter]

theorem length_eq_count_closes {document : Text} (h : scan f document = .ok regions) :
    regions.length = f.count .closes document.lines := by
  have hmap := congrArg List.length (scan_eq_ok_iff.1 h).map_endMarker
  rw [List.length_map] at hmap
  rw [hmap, Family.count, List.countP_eq_length_filter]

/-! ## Places -/

namespace Region.IsNumber

/-- The lines around the end marker. -/
theorem lines_eq_end (h : r.IsNumber f lines k front inside back) :
    lines = (front ++ r.startMarker :: inside) ++ r.endMarker :: back := by
  rw [h.lines_eq]
  simp

theorem role_startMarker (h : r.IsNumber f lines k front inside back) :
    f.role r.startMarker = .opens := Marker.role_of_classify_opening h.opens

/-- Regions with higher numbers start later and end later. -/
theorem span_lt {s : Region} {j : Nat} {inside' : List Text}
    (hr : r.IsNumber f lines j front inside back) (hs : s.IsNumber f lines k front' inside' back')
    (hlt : j < k) : r.span.start < s.span.start ∧ r.span.stop < s.span.stop := by
  have hstart : f.count .opens front < f.count .opens front' := by
    rw [hr.count_opens, hs.count_opens]
    exact hlt
  have hstop : f.count .closes (front ++ r.startMarker :: inside) <
      f.count .closes (front' ++ s.startMarker :: inside') := by
    rw [hr.count_closes, hs.count_closes]
    exact hlt
  obtain ⟨mid, hmid⟩ := exists_between hr.lines_eq hs.lines_eq hstart
  obtain ⟨mid', hmid'⟩ := exists_between hr.lines_eq_end hs.lines_eq_end hstop
  constructor
  · rw [hr.start_eq, hs.start_eq, hmid, Text.byteLength_unlines_append,
      Text.byteLength_unlines_cons]
    omega
  · simp only [hr.stop_eq, hs.stop_eq, hmid', Text.byteLength_unlines_append,
      Text.byteLength_unlines_cons]
    omega

end Region.IsNumber

/-- The regions of a document start in order and end in order. -/
theorem spans_ascend {document : Text} (h : scan f document = .ok regions) :
    regions.Pairwise fun r s => r.span.start < s.span.start ∧ r.span.stop < s.span.stop := by
  rw [List.pairwise_iff_getElem]
  intro i j hi hj hij
  obtain ⟨_, _, _, hr⟩ := isNumber_of_scan h (List.getElem?_eq_getElem hi)
  obtain ⟨_, _, _, hs⟩ := isNumber_of_scan h (List.getElem?_eq_getElem hj)
  exact hr.span_lt hs hij

end Regions

/-- Every line feed ends a line. -/
theorem Text.count_lineFeed_unlines {ls : List Text} (h : ∀ l ∈ ls, '\n' ∉ l) :
    (Text.unlines ls).count '\n' = ls.length := by
  induction ls with
  | nil => rfl
  | cons l ls ih =>
    obtain ⟨hl, hls⟩ := List.forall_mem_cons.1 h
    rw [Text.unlines_cons, List.count_append, List.count_eq_zero_of_not_mem hl,
      List.count_cons_self, ih hls, List.length_cons]
    omega

/-- A region that starts behind some lines of a document is on the next line. -/
theorem Region.lineIn_joinLines {r : Region} {front back : List Text} (hback : back ≠ [])
    (hfront : ∀ l ∈ front, '\n' ∉ l) (hstart : r.span.start = (Text.unlines front).byteLength) :
    r.lineIn (Text.joinLines (front ++ back)) = front.length + 1 := by
  have hjoin := Text.joinLines_append_append front hback []
  rw [List.append_nil, Text.onlines_nil, List.append_nil] at hjoin
  unfold Region.lineIn
  rw [hjoin, hstart, Text.splitAtByte_append]
  simp only [Text.count_lineFeed_unlines hfront]

/-- The line of a region is that of its start marker. -/
theorem Region.IsNumber.lineIn_eq {document : Text} {r : Region} {inside : List Text}
    (h : r.IsNumber f document.lines k front inside back) :
    r.lineIn document = front.length + 1 := by
  have hdocument : document =
      Text.joinLines (front ++ r.startMarker :: (inside ++ r.endMarker :: back)) := by
    rw [← h.lines_eq, Text.joinLines_lines]
  have hone : ∀ l ∈ front, '\n' ∉ l := by
    intro l hl
    apply Text.lineFeed_not_mem_of_mem_lines (t := document)
    rw [h.lines_eq]
    exact List.mem_append_left _ hl
  rw [hdocument]
  exact Region.lineIn_joinLines (List.cons_ne_nil _ _) hone h.start_eq

/-! ## The law -/

/-- **The pairing law**: there are as many regions as opening lines, and as many as closing lines;
    they start in order and end in order; and the region with number `k` has the `k`-th opening line
    with its configuration, the `k`-th closing line, the span from the one to the other, the line of
    its start marker, and as its body the content behind `k + 1` opening and `k` closing lines. -/
theorem pairing_law (f : Family) (document : Text) (regions : List Region)
    (h : scan f document = .ok regions) :
    regions.length = f.count .opens document.lines ∧
    regions.length = f.count .closes document.lines ∧
    (regions.Pairwise fun r s => r.span.start < s.span.start ∧ r.span.stop < s.span.stop) ∧
    ∀ (k : Nat) (r : Region), regions[k]? = some r → ∃ front inside back,
      r.IsNumber f document.lines k front inside back ∧ r.lineIn document = front.length + 1 := by
  refine ⟨length_eq_count_opens h, length_eq_count_closes h, spans_ascend h, fun k r hk => ?_⟩
  obtain ⟨front, inside, back, hr⟩ := isNumber_of_scan h hk
  exact ⟨front, inside, back, hr, hr.lineIn_eq⟩

/-- The second of two regions that overlap and have the same markers. -/
theorem pairing_law_overlapping :
    ∃ regions r, scan .tracks Sample.overlappingDocument = .ok regions ∧ regions.length = 2 ∧
      regions[1]? = some r ∧ r.bodyLines = [[], "inner".toList] ∧
      ∃ front inside back, r.IsNumber .tracks Sample.overlappingDocument.lines 1 front inside back ∧
        r.lineIn Sample.overlappingDocument = front.length + 1 := by
  obtain ⟨regions, hscan, hfound⟩ : ∃ regions,
      scan .tracks Sample.overlappingDocument = .ok regions ∧ decide (regions.length = 2 ∧
        regions.map Region.bodyLines = [["stale tracks".toList], [[], "inner".toList]]) = true :=
    exists_ok_of_any (by decide +kernel)
  obtain ⟨hlength, hbodies⟩ := of_decide_eq_true hfound
  obtain ⟨first, r, rfl⟩ := List.length_eq_two.1 hlength
  have hbody : r.bodyLines = [[], "inner".toList] := by
    have h := congrArg (fun bodies => bodies[1]?) hbodies
    exact Option.some.inj h
  exact ⟨_, r, hscan, hlength, rfl, hbody, (pairing_law _ _ _ hscan).2.2.2 1 r rfl⟩

end ListeningCharts
