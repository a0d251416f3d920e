import ListeningCharts.Proofs.Numbering
import ListeningCharts.Proofs.Stores
import ListeningCharts.Proofs.Views
import Mathlib.Data.Fintype.Basic
import Mathlib.Data.Finset.Card
import Mathlib.Data.List.Induction

/-! # Updates at the same time

    Any number of updaters work on one document in memory. An update reads it in one step and writes
    it in another one, and in between it computes what to write; the steps of different updaters
    come in any order, and an updater may stop anywhere.

    * **Alone**, the steps of an updater are the update in a store (`Updater.iterate_step`).
    * **One step** writes what was computed from the very content that it replaces, or it writes
      nothing (`Updater.step_cases`). The version that an updater hands back is that of the content
      it has read, so this content is there again when the write succeeds, if the digests of the
      contents that the document takes on are different.
    * **A whole schedule** is a chain of such writes, one for each updater that reports one
      (`Workshop.exists_history`). No update is lost: what an updater has written is only replaced
      by what another one computed from it (`no_lost_update`).
-/

namespace ListeningCharts

/-! ## Updaters -/

/-- Who updates a document: a source with the state that it starts in, options, and a locator. -/
structure Updater (σ : Type) where
  source : Source σ
  start : σ
  options : UpdateOptions
  locator : Text

/-- How far an update has come. -/
inductive Phase where
  | waiting
  | reading (stored : StoredDocument)
  | writing (stored : StoredDocument) (u : DocumentUpdate)
  | done (outcome : Except Error UpdateReport)
  deriving DecidableEq

/-- Whether the update is done and reports a write. -/
def Phase.hasWritten : Phase → Bool
  | done (.ok report) => report.written
  | _ => false

/-- The phase of an updater that has written an update. -/
def Phase.written (u : DocumentUpdate) : Phase := done (.ok { update := u, written := true })

theorem Phase.hasWritten_iff {p : Phase} : p.hasWritten = true ↔ ∃ u, p = written u := by
  constructor
  · intro h
    unfold hasWritten at h
    split at h
    · next report =>
      obtain ⟨u, wrote⟩ := report
      obtain rfl : wrote = true := h
      exact ⟨u, rfl⟩
    · cases h
  · rintro ⟨u, rfl⟩
    rfl

namespace Updater

variable {σ τ : Type}

/-- What an updater makes of a content. -/
def compute (c : Updater σ) (content : Text) : Except Error DocumentUpdate :=
  (computeUpdate c.source c.options content c.start).1

/-- One step of an updater. -/
def step (store : DocumentStore τ) (c : Updater σ) : τ × Phase → τ × Phase
  | (t, .waiting) =>
    match store.read c.locator t with
    | .ok stored => (t, .reading stored)
    | .error e => (t, .done (.error e))
  | (t, .reading stored) =>
    match c.compute stored.content with
    | .ok u =>
      if u.isWritten c.options then (t, .writing stored u)
      else (t, .done (.ok { update := u, written := false }))
    | .error e => (t, .done (.error e))
  | (t, .writing stored u) =>
    match store.write c.locator u.updated stored.version t with
    | (.ok (), t) => (t, .written u)
    | (.error e, t) => (t, .done (.error e))
  | (t, .done outcome) => (t, .done outcome)

/-- **The steps of an updater are an update in the store**, if nobody else takes a step between
them. -/
theorem iterate_step (store : DocumentStore τ) (c : Updater σ) (t : τ) :
    ∃ outcome t' s', (c.step store)^[3] (t, .waiting) = (t', .done outcome) ∧
      updateDocument store c.source.beside c.options c.locator (t, c.start) =
        (outcome, (t', s')) := by
  show ∃ outcome t' s', c.step store (c.step store (c.step store (t, .waiting))) = _ ∧ _
  -- an updater that is done early idles for the steps that are left
  cases hread : store.read c.locator t with
  | error e =>
    refine ⟨.error e, t, c.start, ?_, updateDocument_of_unread hread⟩
    simp only [step, hread]
  | ok stored =>
    have hrun := c.source.computeUpdate_beside c.options stored.content t c.start
    cases hcompute : c.compute stored.content with
    | error e =>
      rw [show (computeUpdate c.source c.options stored.content c.start).1 = _
        from hcompute] at hrun
      refine ⟨.error e, t, _, ?_, updateDocument_of_uncomputed hread hrun⟩
      simp only [step, hread, hcompute]
    | ok u =>
      rw [show (computeUpdate c.source c.options stored.content c.start).1 = _
        from hcompute] at hrun
      by_cases hwritten : u.isWritten c.options = true
      · rcases hwrite : store.write c.locator u.updated stored.version t with ⟨e | ⟨⟨⟩⟩, t'⟩
        · refine ⟨.error e, t', _, ?_, updateDocument_of_unwritable hread hrun hwritten hwrite⟩
          simp only [step, hread, hcompute, hwritten, hwrite, if_true]
        · refine ⟨_, t', _, ?_, updateDocument_of_written hread hrun hwritten hwrite⟩
          simp only [step, hread, hcompute, hwritten, hwrite, if_true]
          rfl
      · have hdry : u.isWritten c.options = false := by simpa using hwritten
        refine ⟨_, t, _, ?_, updateDocument_of_not_written hread hrun hdry⟩
        simp only [step, hread, hcompute, hdry]
        rfl

end Updater

/-! ## One step -/

/-- No two of the contents have the same digest. -/
def DigestsApart (contents : List Text) : Prop :=
  ∀ c ∈ contents, ∀ c' ∈ contents, Version.ofContent c = Version.ofContent c' → c = c'

instance (contents : List Text) : Decidable (DigestsApart contents) :=
  inferInstanceAs (Decidable (∀ c ∈ contents, ∀ c' ∈ contents,
    Version.ofContent c = Version.ofContent c' → c = c'))

namespace Updater

variable {σ : Type} {c : Updater σ} {known : List Text} {s s' : MemoryDocument × Phase}
  {u v : DocumentUpdate}

/-- What an updater has read is one of the contents, with its version; what it is to write was
    computed from that. -/
def Knows (c : Updater σ) (known : List Text) : Phase → Prop
  | .waiting => True
  | .reading stored => stored.version = .ofContent stored.content ∧ stored.content ∈ known
  | .writing stored u => (stored.version = .ofContent stored.content ∧ stored.content ∈ known) ∧
      c.compute stored.content = .ok u ∧ u.isWritten c.options = true
  | .done _ => True

/-- The content is replaced by what the updater has computed from it, and the updater is done. -/
structure Writes (c : Updater σ) (s s' : MemoryDocument × Phase) (u : DocumentUpdate) :
    Prop where
  computed : c.compute s.1.content = .ok u
  isWritten : u.isWritten c.options = true
  before : s.2.hasWritten = false
  next_eq : s' = ({ content := u.updated, writes := s.1.writes + 1 }, .written u)

/-- The document stays as it is, and no other write is reported. -/
structure Idles (s s' : MemoryDocument × Phase) : Prop where
  store_eq : s'.1 = s.1
  written_iff : ∀ u, s'.2 = .written u ↔ s.2 = .written u

theorem idles_of_not_written (hstore : s'.1 = s.1) (hbefore : s.2.hasWritten = false)
    (hafter : s'.2.hasWritten = false) : Idles s s' where
  store_eq := hstore
  written_iff u := by
    constructor
    · intro h
      rw [h] at hafter
      cases hafter
    · intro h
      rw [h] at hbefore
      cases hbefore

/-- What is written differs from the content that it was computed from. -/
theorem Writes.updated_ne (h : c.Writes s s' u) :
    u.previous = s.1.content ∧ u.updated ≠ u.previous := by
  have hcomputed := h.computed
  have hwritten := h.isWritten
  unfold compute at hcomputed
  cases hrun : computeUpdate c.source c.options s.1.content c.start with
  | mk outcome left =>
    rw [hrun] at hcomputed
    obtain rfl : outcome = .ok u := hcomputed
    obtain ⟨_, updated, updates, -, -, rfl⟩ := computeUpdate_eq_ok_iff.1 hrun
    refine ⟨rfl, ?_⟩
    rw [DocumentUpdate.isWritten, DocumentUpdate.isChanged, Bool.and_eq_true,
      bne_iff_ne] at hwritten
    exact hwritten.1.symm

/-- **One step writes what was computed from the content that is there, or nothing**. -/
theorem step_cases (hknows : c.Knows known s.2) (hcontent : s.1.content ∈ known)
    (hdigests : DigestsApart known) :
    c.Knows known (c.step MemoryDocument.store s).2 ∧
      ((∃ u, c.Writes s (c.step MemoryDocument.store s) u) ∨
        Idles s (c.step MemoryDocument.store s)) := by
  obtain ⟨d, p⟩ := s
  cases p with
  | waiting => exact ⟨⟨rfl, hcontent⟩, .inr (idles_of_not_written rfl rfl rfl)⟩
  | reading stored =>
    cases hcompute : c.compute stored.content with
    | error e =>
      simp only [step, hcompute]
      exact ⟨trivial, .inr (idles_of_not_written rfl rfl rfl)⟩
    | ok u =>
      simp only [step, hcompute]
      by_cases hwritten : u.isWritten c.options = true
      · rw [if_pos hwritten]
        exact ⟨⟨hknows, hcompute, hwritten⟩, .inr (idles_of_not_written rfl rfl rfl)⟩
      · rw [if_neg hwritten]
        exact ⟨trivial, .inr (idles_of_not_written rfl rfl rfl)⟩
  | writing stored u =>
    obtain ⟨⟨hversion, hstored⟩, hcompute, hwritten⟩ := hknows
    by_cases hsame : Version.ofContent d.content = stored.version
    · -- the digest is that of what was read, so the content is what was read
      have hread : d.content = stored.content :=
        hdigests d.content hcontent stored.content hstored (hsame.trans hversion)
      rw [← hread] at hcompute
      simp only [step, MemoryDocument.store, if_pos hsame]
      exact ⟨trivial, .inl ⟨u, hcompute, hwritten, rfl, rfl⟩⟩
    · simp only [step, MemoryDocument.store, if_neg hsame]
      exact ⟨trivial, .inr (idles_of_not_written rfl rfl rfl)⟩
  | done outcome => exact ⟨trivial, .inr ⟨rfl, fun _ => Iff.rfl⟩⟩

end Updater

/-! ## Schedules -/

/-- A document, and how far each of its updaters has come. -/
structure Workshop (ι : Type) where
  store : MemoryDocument
  phase : ι → Phase

namespace Workshop

variable {ι σ : Type} {updaters : ι → Updater σ} {i j : ι} {u v : DocumentUpdate}

/-- The document with updaters that have not begun. -/
def opening (d : MemoryDocument) : Workshop ι := { store := d, phase := fun _ => .waiting }

/-- What the next step of an updater depends on: the document, and how far the updater has come. -/
def station (w : Workshop ι) (i : ι) : MemoryDocument × Phase := (w.store, w.phase i)

/-- Where a write leaves the document and its updater. -/
theorem of_writes {w w' : Workshop ι} (h : (updaters i).Writes (w.station i) (w'.station i) u) :
    w'.store = { content := u.updated, writes := w.store.writes + 1 } ∧
      w'.phase i = .written u := Prod.mk.inj h.next_eq

/-- If the content that an updater replaces is one that another one has replaced before, then it has
    returned in between. -/
theorem returns_of_writes {w w' t t' : Workshop ι}
    (hfirst : (updaters i).Writes (w.station i) (w'.station i) u)
    (hsecond : (updaters j).Writes (t.station j) (t'.station j) v)
    (hsame : u.previous = v.previous) :
    w'.store.content ≠ u.previous ∧ t.store.content = u.previous ∧ w'.phase i = .written u ∧
      (t.phase j).hasWritten = false := by
  obtain ⟨hstore, hphase⟩ := of_writes hfirst
  refine ⟨?_, ?_, hphase, hsecond.before⟩
  · rw [hstore]
    exact hfirst.updated_ne.2
  · rw [hsame]
    exact hsecond.updated_ne.1.symm

variable [DecidableEq ι] {d : MemoryDocument} {schedule front back : List ι}

/-- One updater takes a step. -/
def advance (updaters : ι → Updater σ) (w : Workshop ι) (i : ι) : Workshop ι where
  store := ((updaters i).step MemoryDocument.store (w.store, w.phase i)).1
  phase := Function.update w.phase i
    ((updaters i).step MemoryDocument.store (w.store, w.phase i)).2

/-- The updaters take steps in this order. -/
def run (updaters : ι → Updater σ) (d : MemoryDocument) (schedule : List ι) : Workshop ι :=
  schedule.foldl (advance updaters) (opening d)

/-- The contents that the document takes on. -/
def contents (updaters : ι → Updater σ) (d : MemoryDocument) (schedule : List ι) : List Text :=
  schedule.inits.map fun front => (run updaters d front).store.content

theorem run_snoc (updaters : ι → Updater σ) (d : MemoryDocument) (front : List ι) (i : ι) :
    run updaters d (front ++ [i]) = advance updaters (run updaters d front) i := by
  unfold run
  rw [List.foldl_append]
  rfl

theorem content_mem_contents (updaters : ι → Updater σ) (d : MemoryDocument) (front back : List ι) :
    (run updaters d front).store.content ∈ contents updaters d (front ++ back) :=
  List.mem_map.2 ⟨front, (List.mem_inits _ _).2 (List.prefix_append front back), rfl⟩

/-- A step changes the phase of one updater. -/
theorem phase_advance_of_ne (updaters : ι → Updater σ) (w : Workshop ι) (hne : j ≠ i) :
    (advance updaters w i).phase j = w.phase j := Function.update_of_ne hne _ _

theorem phase_advance_self (updaters : ι → Updater σ) (w : Workshop ι) (i : ι) :
    (advance updaters w i).phase i =
      ((updaters i).step MemoryDocument.store (w.store, w.phase i)).2 := Function.update_self _ _ _

theorem station_advance_self (updaters : ι → Updater σ) (w : Workshop ι) (i : ι) :
    (advance updaters w i).station i =
      (updaters i).step MemoryDocument.store (w.station i) :=
  Prod.ext rfl (phase_advance_self updaters w i)

/-- All updaters know what they have read, wherever a schedule has come. -/
theorem knows_run (hdigests : DigestsApart (contents updaters d schedule))
    (hschedule : schedule = front ++ back) (j : ι) :
    (updaters j).Knows (contents updaters d schedule) ((run updaters d front).phase j) := by
  -- on the steps taken, the last one split off: it is the one that `Updater.step_cases` is about
  induction front using List.reverseRecOn generalizing back with
  | nil => trivial
  | append_singleton front i ih =>
    rw [List.append_assoc] at hschedule
    have hknows := ih hschedule
    rw [run_snoc]
    by_cases hj : j = i
    · subst hj
      rw [phase_advance_self]
      -- what it reads now is one of the contents of the whole schedule
      refine (Updater.step_cases hknows ?_ hdigests).1
      rw [hschedule]
      exact content_mem_contents updaters d front _
    · rw [phase_advance_of_ne _ _ hj]
      exact hknows

/-- **Every step of a schedule** writes what was computed from the content that is there, or
nothing. -/
theorem step_cases (hdigests : DigestsApart (contents updaters d schedule))
    (hschedule : schedule = front ++ i :: back) :
    (∃ u, (updaters i).Writes ((run updaters d front).station i)
      ((run updaters d (front ++ [i])).station i) u) ∨
    Updater.Idles ((run updaters d front).station i)
      ((run updaters d (front ++ [i])).station i) := by
  have hcontent : (run updaters d front).store.content ∈ contents updaters d schedule := by
    rw [hschedule]
    exact content_mem_contents updaters d front _
  have hknows := knows_run hdigests hschedule i
  rw [run_snoc, station_advance_self]
  exact (Updater.step_cases hknows hcontent hdigests).2

/-! ## Whole schedules -/

/-- A content becomes another one by writes, each of them computed from what the one before it
left. -/
inductive Chain (updaters : ι → Updater σ) (first : Text) : List (ι × DocumentUpdate) → Text → Prop
    where
  | nil : Chain updaters first [] first
  | snoc {writes : List (ι × DocumentUpdate)} {content : Text} {i : ι} {u : DocumentUpdate}
      (before : Chain updaters first writes content)
      (computed : (updaters i).compute content = .ok u)
      (isWritten : u.isWritten (updaters i).options = true) :
      Chain updaters first (writes ++ [(i, u)]) u.updated

/-- The writes of a schedule, in their order. -/
structure IsHistory (updaters : ι → Updater σ) (d : MemoryDocument)
    (writes : List (ι × DocumentUpdate)) (w : Workshop ι) : Prop where
  chain : Chain updaters d.content writes w.store.content
  count : w.store.writes = d.writes + writes.length
  mem_iff : ∀ i u, (i, u) ∈ writes ↔ w.phase i = .written u
  nodup : (writes.map Prod.fst).Nodup

/-- A write is one more of the history. -/
theorem IsHistory.snoc {writes : List (ι × DocumentUpdate)} {w w' : Workshop ι}
    (h : IsHistory updaters d writes w) (hothers : ∀ j, j ≠ i → w'.phase j = w.phase j)
    (hwrites : (updaters i).Writes (w.station i) (w'.station i) u) :
    IsHistory updaters d (writes ++ [(i, u)]) w' := by
  obtain ⟨hstore, hphase⟩ := of_writes hwrites
  -- the updater has not written before
  have hnew : ∀ v, (i, v) ∉ writes := by
    intro v hv
    have hbefore : (w.phase i).hasWritten = false := hwrites.before
    rw [(h.mem_iff i v).1 hv] at hbefore
    cases hbefore
  constructor
  · -- it is computed from the content that the chain has come to
    rw [hstore]
    exact .snoc h.chain hwrites.computed hwrites.isWritten
  · rw [hstore, List.length_append, List.length_singleton, ← Nat.add_assoc, ← h.count]
  · intro j v
    rw [List.mem_append, List.mem_singleton]
    by_cases hj : j = i
    · subst hj
      rw [hphase]
      constructor
      · rintro (hv | hv)
        · exact absurd hv (hnew v)
        · cases hv
          rfl
      · intro hv
        cases hv
        exact .inr rfl
    · -- the others report what they reported before
      have hne : (j, v) ≠ (i, u) := fun heq => hj (congrArg Prod.fst heq)
      rw [hothers j hj, ← h.mem_iff]
      simp only [hne, or_false]
  · rw [List.map_append, List.nodup_append]
    refine ⟨h.nodup, List.nodup_singleton i, ?_⟩
    intro j hj k hk heq
    obtain ⟨⟨_, v⟩, hv, rfl⟩ := List.mem_map.1 hj
    rw [List.mem_singleton.1 hk] at heq
    subst heq
    exact hnew v hv

/-- A step that writes nothing leaves the history as it is. -/
theorem IsHistory.of_idles {writes : List (ι × DocumentUpdate)} {w w' : Workshop ι}
    (h : IsHistory updaters d writes w) (hothers : ∀ j, j ≠ i → w'.phase j = w.phase j)
    (hidles : Updater.Idles (w.station i) (w'.station i)) :
    IsHistory updaters d writes w' := by
  have hstore : w'.store = w.store := hidles.store_eq
  constructor
  · rw [hstore]
    exact h.chain
  · rw [hstore]
    exact h.count
  · intro j v
    rw [h.mem_iff]
    by_cases hj : j = i
    · subst hj
      exact (hidles.written_iff v).symm
    · rw [hothers j hj]
  · exact h.nodup

theorem phase_run_of_ne (updaters : ι → Updater σ) (d : MemoryDocument) (front : List ι)
    (hne : j ≠ i) : (run updaters d (front ++ [i])).phase j = (run updaters d front).phase j := by
  rw [run_snoc, phase_advance_of_ne _ _ hne]

/-- **A schedule is a chain of writes**, one for each updater that reports one. -/
theorem exists_history (hdigests : DigestsApart (contents updaters d schedule))
    (hschedule : schedule = front ++ back) :
    ∃ writes, IsHistory updaters d writes (run updaters d front) := by
  induction front using List.reverseRecOn generalizing back with
  | nil =>
    refine ⟨[], .nil, rfl, fun i u => ?_, .nil⟩
    constructor
    · intro h
      cases h
    · intro h
      cases h
  | append_singleton front i ih =>
    rw [List.append_assoc] at hschedule
    obtain ⟨writes, h⟩ := ih hschedule
    have hothers : ∀ j, j ≠ i → _ := fun j hj => phase_run_of_ne updaters d front hj
    rcases step_cases hdigests hschedule with ⟨u, hwrites⟩ | hidles
    · exact ⟨_, h.snoc hothers hwrites⟩
    · exact ⟨writes, h.of_idles hothers hidles⟩

/-- An updater that is done stays so. -/
theorem phase_run_of_done {outcome : Except Error UpdateReport}
    (h : (run updaters d front).phase i = .done outcome) (back : List ι) :
    (run updaters d (front ++ back)).phase i = .done outcome := by
  induction back using List.reverseRecOn with
  | nil =>
    rw [List.append_nil]
    exact h
  | append_singleton back j ih =>
    rw [← List.append_assoc]
    by_cases hj : i = j
    · subst hj
      rw [run_snoc, phase_advance_self, ih]
      rfl
    · rw [phase_run_of_ne updaters d _ hj, ih]

/-- An updater that reports a write has made it at one of its steps. -/
theorem exists_writes (hdigests : DigestsApart (contents updaters d schedule))
    (hschedule : schedule = front ++ back) (h : (run updaters d front).phase i = .written u) :
    ∃ before after, front = before ++ i :: after ∧
      (updaters i).Writes ((run updaters d before).station i)
        ((run updaters d (before ++ [i])).station i) u := by
  induction front using List.reverseRecOn generalizing back with
  | nil => cases h
  | append_singleton front j ih =>
    rw [List.append_assoc] at hschedule
    -- the last step of the schedule has made the write, or it was made before
    have hearlier : (run updaters d front).phase i = .written u → ∃ before after,
        front ++ [j] = before ++ i :: after ∧
        (updaters i).Writes ((run updaters d before).station i)
          ((run updaters d (before ++ [i])).station i) u := by
      intro hbefore
      obtain ⟨before, after, rfl, hwrites⟩ := ih hschedule hbefore
      exact ⟨before, after ++ [j], by simp, hwrites⟩
    by_cases hj : i = j
    · subst hj
      rcases step_cases hdigests hschedule with ⟨v, hwrites⟩ | hidles
      · have hphase := (of_writes hwrites).2
        obtain rfl : v = u := by
          rw [h] at hphase
          cases hphase
          rfl
        exact ⟨front, [], rfl, hwrites⟩
      · exact hearlier ((hidles.written_iff u).1 h)
    · rw [phase_run_of_ne updaters d front hj] at h
      exact hearlier h

/-- An updater that reports no write leaves the document as it is with each of its steps. -/
theorem store_eq_of_not_written (hdigests : DigestsApart (contents updaters d schedule))
    (hschedule : schedule = front ++ i :: back)
    (h : ((run updaters d schedule).phase i).hasWritten = false) :
    (run updaters d (front ++ [i])).store = (run updaters d front).store := by
  rcases step_cases hdigests hschedule with ⟨u, hwrites⟩ | hidles
  · -- a write would still be reported in the end
    have hlast := phase_run_of_done (of_writes hwrites).2 back
    rw [List.append_assoc, List.singleton_append, ← hschedule] at hlast
    rw [hlast] at h
    cases h
  · exact hidles.store_eq

/-! ## Two writers of one content -/

/-- Of two writers of one content, the later one finds that the content has returned. -/
theorem returns_of_two_writers (hdigests : DigestsApart (contents updaters d schedule))
    (hne : i ≠ j) (hi : (run updaters d schedule).phase i = .written u)
    (hj : (run updaters d schedule).phase j = .written v) (hsame : u.previous = v.previous) :
    ∃ front mid back, schedule = front ++ mid ++ back ∧
      (run updaters d front).store.content ≠ u.previous ∧
      (run updaters d (front ++ mid)).store.content = u.previous ∧
      ((run updaters d front).phase i = .written u ∧
          ((run updaters d (front ++ mid)).phase j).hasWritten = false ∨
        (run updaters d front).phase j = .written v ∧
          ((run updaters d (front ++ mid)).phase i).hasWritten = false) := by
  have hall : schedule = schedule ++ [] := (List.append_nil schedule).symm
  obtain ⟨front, back, hcut, hwi⟩ := exists_writes hdigests hall hi
  obtain ⟨front', back', hcut', hwj⟩ := exists_writes hdigests hall hj
  -- either of the two may have written first; the one that did is the one that was replaced
  rcases append_cons_cases (hcut.symm.trans hcut') with ⟨mid, rfl, -⟩ | ⟨-, heq, -⟩ | ⟨mid, rfl, -⟩
  · rw [List.append_cons] at hwj
    obtain ⟨hleft, hreturned, hwritten, hbefore⟩ := returns_of_writes hwi hwj hsame
    refine ⟨front ++ [i], mid, j :: back', ?_, hleft, hreturned, .inl ⟨hwritten, hbefore⟩⟩
    rw [hcut', List.append_cons front]
  · exact absurd heq hne
  · rw [List.append_cons] at hwi
    obtain ⟨hleft, hreturned, hwritten, hbefore⟩ := returns_of_writes hwj hwi hsame.symm
    rw [← hsame] at hleft hreturned
    refine ⟨front' ++ [j], mid, i :: back, ?_, hleft, hreturned, .inr ⟨hwritten, hbefore⟩⟩
    rw [hcut, List.append_cons front']

/-- The number of writes is the number of updaters that report one. -/
theorem IsHistory.length_eq [Fintype ι] {writes : List (ι × DocumentUpdate)} {w : Workshop ι}
    (h : IsHistory updaters d writes w) :
    writes.length = (Finset.univ.filter fun i => (w.phase i).hasWritten = true).card := by
  have hwriters : (writes.map Prod.fst).toFinset =
      Finset.univ.filter fun i => (w.phase i).hasWritten = true := by
    ext i
    rw [List.mem_toFinset, Finset.mem_filter, Phase.hasWritten_iff, List.mem_map]
    constructor
    · rintro ⟨⟨_, u⟩, hu, rfl⟩
      exact ⟨Finset.mem_univ _, u, (h.mem_iff _ u).1 hu⟩
    · rintro ⟨-, u, hu⟩
      exact ⟨(i, u), (h.mem_iff i u).2 hu, rfl⟩
  rw [← hwriters, List.toFinset_card_of_nodup h.nodup, List.length_map]

end Workshop

/-! ## No lost update -/

/-- **No update is lost.** Any number of updaters work on one document in memory, each with its own
    source and options, in any order of their steps. If the contents that the document takes on have
    different digests, then:

    * The steps of an updater, taken alone, are the update in the store.
    * The document goes through a chain of writes, each of them computed from exactly the content
      that it replaces, one for each updater that reports a write; and so many writes are counted.
    * Every step either leaves the document and the count as they are, or is such a write; and an
      updater that reports no write, because it failed, met a conflict, ran dry or found nothing to
      change, leaves them as they are with each of its steps.
    * If two updaters have written what they computed from one content, then between the two writes
      the content has returned to it. -/
theorem no_lost_update {ι σ : Type} [DecidableEq ι] [Fintype ι] (updaters : ι → Updater σ)
    (d : MemoryDocument) (schedule : List ι)
    (hdigests : DigestsApart (Workshop.contents updaters d schedule)) :
    (∀ i t, ∃ outcome t' s',
      ((updaters i).step MemoryDocument.store)^[3] (t, .waiting) = (t', .done outcome) ∧
      updateDocument MemoryDocument.store (updaters i).source.beside (updaters i).options
        (updaters i).locator (t, (updaters i).start) = (outcome, (t', s'))) ∧
    (∃ writes, Workshop.IsHistory updaters d writes (Workshop.run updaters d schedule)) ∧
    (Workshop.run updaters d schedule).store.writes = d.writes + (Finset.univ.filter fun i =>
      ((Workshop.run updaters d schedule).phase i).hasWritten = true).card ∧
    (∀ front i back, schedule = front ++ i :: back →
      (Workshop.run updaters d (front ++ [i])).store = (Workshop.run updaters d front).store ∨
      ∃ u, (updaters i).compute (Workshop.run updaters d front).store.content = .ok u ∧
        u.isWritten (updaters i).options = true ∧
        (Workshop.run updaters d (front ++ [i])).store =
          { content := u.updated, writes := (Workshop.run updaters d front).store.writes + 1 } ∧
        (Workshop.run updaters d schedule).phase i = .written u) ∧
    (∀ i, ((Workshop.run updaters d schedule).phase i).hasWritten = false →
      ∀ front back, schedule = front ++ i :: back →
        (Workshop.run updaters d (front ++ [i])).store = (Workshop.run updaters d front).store) ∧
    ∀ i j u v, i ≠ j → (Workshop.run updaters d schedule).phase i = .written u →
      (Workshop.run updaters d schedule).phase j = .written v → u.previous = v.previous →
      ∃ front mid back, schedule = front ++ mid ++ back ∧
        (Workshop.run updaters d front).store.content ≠ u.previous ∧
        (Workshop.run updaters d (front ++ mid)).store.content = u.previous ∧
        ((Workshop.run updaters d front).phase i = .written u ∧
            ((Workshop.run updaters d (front ++ mid)).phase j).hasWritten = false ∨
          (Workshop.run updaters d front).phase j = .written v ∧
            ((Workshop.run updaters d (front ++ mid)).phase i).hasWritten = false) := by
  obtain ⟨writes, hhistory⟩ := Workshop.exists_history hdigests (List.append_nil schedule).symm
  refine ⟨fun i t => (updaters i).iterate_step MemoryDocument.store t, ⟨writes, hhistory⟩,
    ?_, ?_, ?_, ?_⟩
  · rw [hhistory.count, hhistory.length_eq]
  · intro front i back hschedule
    rcases Workshop.step_cases hdigests hschedule with ⟨u, hwrites⟩ | hidles
    · obtain ⟨hstore, hphase⟩ := Workshop.of_writes hwrites
      have hlast := Workshop.phase_run_of_done hphase back
      rw [List.append_assoc, List.singleton_append, ← hschedule] at hlast
      exact .inr ⟨u, hwrites.computed, hwrites.isWritten, hstore, hlast⟩
    · exact .inl hidles.store_eq
  · intro i hi front back hschedule
    exact Workshop.store_eq_of_not_written hdigests hschedule hi
  · intro i j u v hne hi hj hsame
    exact Workshop.returns_of_two_writers hdigests hne hi hj hsame

/-- Two updaters with the same source. -/
def Sample.pair : Fin 2 → Updater Unit := fun _ =>
  { source := steady Listing.empty, start := (), options, locator := "README.md" }

/-- If there are only two contents, their digests have to differ. -/
theorem digestsApart_of_two {contents : List Text} {a b : Text}
    (hne : Version.ofContent b ≠ Version.ofContent a) (h : ∀ c ∈ contents, c = a ∨ c = b) :
    DigestsApart contents := by
  intro c hc c' hc' heq
  rcases h c hc with rfl | rfl <;> rcases h c' hc' with rfl | rfl
  · rfl
  · exact absurd heq.symm hne
  · exact absurd heq hne
  · rfl

/-- Of two updaters that read the same document, the second to write meets a conflict. -/
theorem no_lost_update_pair :
    ∃ writes, Workshop.IsHistory Sample.pair { content := Sample.albumDocument } writes
        (Workshop.run Sample.pair { content := Sample.albumDocument } [0, 1, 0, 1, 0, 1]) ∧
      writes.length = 1 ∧
      (Workshop.run Sample.pair { content := Sample.albumDocument } [0, 1, 0, 1, 0, 1]).phase 1 =
        .done (.error (.storeConflict "README.md")) := by
  obtain ⟨u, hcompute, h⟩ : ∃ u, (Sample.pair 0).compute Sample.albumDocument = .ok u ∧
      decide (u.isWritten Sample.options = true ∧
        Version.ofContent u.updated ≠ Version.ofContent Sample.albumDocument) = true :=
    exists_ok_of_any (by decide +kernel)
  obtain ⟨hwritten, hdigest⟩ := of_decide_eq_true h
  have hsecond : (Sample.pair 1).compute Sample.albumDocument = .ok u := hcompute
  have hoptions : ∀ i, (Sample.pair i).options = Sample.options := fun _ => rfl
  have hlocator : ∀ i, (Sample.pair i).locator = "README.md".toList := fun _ => rfl
  have hcontents : ∀ c ∈ Workshop.contents Sample.pair { content := Sample.albumDocument }
      [0, 1, 0, 1, 0, 1], c = Sample.albumDocument ∨ c = u.updated := by
    simp [Workshop.contents, List.inits, Workshop.run, Workshop.advance, Workshop.opening,
      Updater.step, MemoryDocument.store, hcompute, hsecond, hoptions, hwritten, hdigest]
  obtain ⟨-, ⟨writes, hhistory⟩, -⟩ := no_lost_update Sample.pair _ _
    (digestsApart_of_two hdigest hcontents)
  have hcount : (Workshop.run Sample.pair { content := Sample.albumDocument }
      [0, 1, 0, 1, 0, 1]).store.writes = 1 := by
    simp [Workshop.run, Workshop.advance, Workshop.opening, Updater.step, MemoryDocument.store,
      hcompute, hsecond, hoptions, hwritten, hdigest]
  refine ⟨writes, hhistory, ?_, ?_⟩
  · have hlength := hhistory.count
    rw [hcount] at hlength
    simpa using hlength.symm
  · simp [Workshop.run, Workshop.advance, Workshop.opening, Updater.step, MemoryDocument.store,
      hcompute, hsecond, hoptions, hwritten, hdigest, hlocator]

end ListeningCharts
