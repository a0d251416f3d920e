import ListeningCharts.Proofs.Paths
import ListeningCharts.Sample

/-! # Writing back

    An update of a file reads it, makes its requests, and reads it again before it writes. Between the
    two readings anybody may write to the tree, and the disk may fail at any of the writes. This module
    says how such an update ends, and what it does to the tree in the end.

    * **One write** replaces the content of the file and nothing else (`FileTree.Replaced`): the file
      that it writes to first is beside the document, and gone afterwards. A write that fails leaves
      the document alone, and it leaves at most the file beside it
      (`FileStore.replaceFile_cases`, `FileStore.Stopped.sameBut`); on a steady disk it leaves nothing
      (`FileStore.Stopped.eq_of_isSteady`).
    * **The whole update** ends in one of four ways (`Ending`): it fails before it writes, its write is
      stopped, it does not write, or it replaces the very content that the update was computed from
      (`write_back`).
-/

namespace ListeningCharts

/-! ## One write -/

/-- What was a tree with one text in a file became a tree with another one there. Nothing is found
    beside the file that is called like the file for the first write, and all else is the same. -/
structure FileTree.Replaced (t t' : FileTree) (p : Place) (old new : Text) : Prop where
  held : t.get? p = some (.file (Utf8.encode old))
  holds : t'.get? p = some (.file (Utf8.encode new))
  sibling_free : t'.get? (FileStore.sibling p) = none
  others : ∀ q, q ≠ p → q ≠ FileStore.sibling p → t'.get? q = t.get? q
  current_eq : t'.current = t.current

namespace FileStore

open FileTree

/-- The tree with a text in the file beside a document. -/
def beside (t : FileTree) (p : Place) (new : Text) : FileTree :=
  t.set (sibling p) (.file (Utf8.encode new))

/-- Why the document at a place is not replaced by a text, and what is left of the tree then. -/
inductive Stopped (files : FileStore) (locator : Text) (t : FileTree) (p : Place) (new : Text) :
    Error → FileTree → Prop where
  /-- The file beside the document is not written, or not as a whole. -/
  | unwritten {fault : IoFault} {t' : FileTree}
      (hunwritten : files.disk.Unwritten t (temporary (files.resolve locator)) (Utf8.encode new)
        fault t') :
      Stopped files locator t p new
        (.store (.unwritable (temporary (files.resolve locator)) fault)) t'
  /-- The file beside the document cannot take its place and is removed. -/
  | cleared {cause : IoFault}
      (hrename : files.disk.renameFault? (beside t p new) (temporary (files.resolve locator))
        (files.resolve locator) = some cause)
      (hremove : files.disk.removeFault? (beside t p new) (temporary (files.resolve locator)) = none) :
      Stopped files locator t p new (.store (.unreplaced (files.resolve locator) cause))
        ((beside t p new).erase (sibling p))
  /-- The file beside the document can neither take its place nor be removed. -/
  | stranded {cause cause' : IoFault}
      (hrename : files.disk.renameFault? (beside t p new) (temporary (files.resolve locator))
        (files.resolve locator) = some cause)
      (hremove : files.disk.removeFault? (beside t p new) (temporary (files.resolve locator)) =
        some cause') :
      Stopped files locator t p new (.store (.unreplaced (files.resolve locator) cause))
        (beside t p new)

variable {files : FileStore} {locator : Text} {t t' : FileTree} {p : Place} {old new text : Text}
  {e : Error}

theorem sibling_ne_nil (p : Place) : sibling p ≠ [] := by
  unfold sibling
  simp

/-- A document that was read is a file with its text. -/
theorem exists_of_readFile (h : files.readFile locator t = .ok text) :
    ∃ p, t.locate (files.resolve locator) = .ok p ∧ t.get? p = some (.file (Utf8.encode text)) :=
  exists_of_readText (mapError_eq_ok_iff.1 h)

/-- **A write that is stopped leaves the document alone**: only the file beside it may be another
    one. -/
theorem Stopped.sameBut (h : files.Stopped locator t p new e t') (htree : t.IsTree)
    (hread : files.readFile locator t = .ok text)
    (hlocate : t.locate (files.resolve locator) = .ok p) : t.SameBut t' (sibling p) := by
  obtain ⟨q, hq, hheld⟩ := exists_of_readFile hread
  obtain rfl := Except.ok.inj (hlocate.symm.trans hq)
  obtain ⟨-, -, htemporary⟩ := locate_temporary htree hlocate hheld
  have hbeside : t.SameBut (beside t p new) (sibling p) := sameBut_set (sibling_ne_nil p) _
  cases h with
  | unwritten hunwritten => exact hunwritten.sameBut htemporary
  | cleared hrename hremove => exact hbeside.erase (sibling_ne_nil p)
  | stranded hrename hremove => exact hbeside

/-- On a steady disk it leaves everything alone, unless the file beside the document was there before
    and what was written to it could not be moved. -/
theorem Stopped.eq_of_isSteady (h : files.Stopped locator t p new e t')
    (hsteady : files.disk.IsSteady)
    (hfree : files.disk.Moves ∨ t.get? (sibling p) = none) : t' = t := by
  have hmoves {cause : IoFault} {t₁ : FileTree} {source target : Text}
      (hrename : files.disk.renameFault? t₁ source target = some cause) : ¬ files.disk.Moves := by
    intro hmoves
    rw [hmoves] at hrename
    cases hrename
  cases h with
  | unwritten hunwritten => exact hunwritten.eq_of_isSteady hsteady
  | cleared hrename hremove =>
    exact erase_set_of_free (sibling_ne_nil p) (hfree.resolve_left (hmoves hrename)) _
  | stranded hrename hremove =>
    rw [hsteady.clears] at hremove
    cases hremove

/-- A file moved over another one takes its place. -/
theorem replaced_of_move (hheld : t.get? p = some (.file (Utf8.encode old))) :
    t.Replaced (((beside t p new).erase (sibling p)).set p (.file (Utf8.encode new))) p old new := by
  have hp : p ≠ [] := ne_nil_of_get? (by rw [hheld]; simp)
  constructor
  · exact hheld
  · rw [get?_set _ _ _ _ hp, if_pos rfl]
  · rw [get?_set _ _ _ _ hp, if_neg (sibling_ne p), get?_erase _ _ _ (sibling_ne_nil p), if_pos rfl]
  · intro q hqp hqs
    rw [get?_set _ _ _ _ hp, if_neg hqp, get?_erase _ _ _ (sibling_ne_nil p), if_neg hqs, beside,
      get?_set _ _ _ _ (sibling_ne_nil p), if_neg hqs]
  · rfl

/-- What was written beside a document can take its place, and can be removed, as far as the tree
    tells. -/
theorem rename_beside (hfree : t.get? (sibling p) ≠ some .directory) {source target : Text}
    (hsource : t.locate source = .ok (sibling p)) (htarget : t.locate target = .ok p)
    (hheld : t.get? p = some (.file (Utf8.encode old))) (new : Text) :
    (beside t p new).rename source target =
        .ok (((beside t p new).erase (sibling p)).set p (.file (Utf8.encode new))) ∧
      (beside t p new).remove source = .ok ((beside t p new).erase (sibling p)) := by
  -- no directory is lost by the first write, so both paths lead where they led
  have hkeeps : t.KeepsDirectories (beside t p new) := keeps_set hfree _
  have hsource' : (beside t p new).locate source = .ok (sibling p) := locate_mono hkeeps rfl hsource
  have htarget' : (beside t p new).locate target = .ok p := locate_mono hkeeps rfl htarget
  have hentry : (beside t p new).get? (sibling p) = some (.file (Utf8.encode new)) := by
    rw [beside, get?_set _ _ _ _ (sibling_ne_nil p), if_pos rfl]
  have hdocument : (beside t p new).get? p ≠ some .directory := by
    rw [beside, get?_set _ _ _ _ (sibling_ne_nil p), if_neg (sibling_ne p).symm, hheld]
    simp
  constructor
  · exact rename_eq_ok_iff.2 ⟨_, p, _, hsource', placeFor_eq_ok_iff.2 ⟨htarget', hdocument⟩, hentry, rfl⟩
  · exact remove_eq_ok (placeFor_eq_ok_iff.2 ⟨hsource', by rw [hentry]; simp⟩) hentry

/-- **Replacing a file** puts the new text in its place, or it is stopped. -/
theorem replaceFile_cases (htree : t.IsTree) (hlocate : t.locate (files.resolve locator) = .ok p)
    (hheld : t.get? p = some (.file (Utf8.encode old))) (new : Text) :
    (∃ t', files.replaceFile locator new t = (.ok (), t') ∧ t.Replaced t' p old new) ∨
    ∃ e t', files.replaceFile locator new t = (.error e, t') ∧
      files.Stopped locator t p new e t' := by
  obtain ⟨-, -, htemporary⟩ := locate_temporary htree hlocate hheld
  rcases files.disk.writeText_cases t (temporary (files.resolve locator)) new with
    ⟨q, hplace, hwrite⟩ | ⟨fault, t', hunwritten, hwrite⟩
  · obtain ⟨hq, hfree⟩ := placeFor_eq_ok_iff.1 hplace
    obtain rfl : q = sibling p := Except.ok.inj (hq.symm.trans htemporary)
    rw [← beside] at hwrite
    obtain ⟨hrename, hremove⟩ := rename_beside hfree htemporary hlocate hheld new
    have hmove := fun fault? => @Disk.attempt_of_ok (beside t p new) _ _ hrename fault?
    have hclear := fun fault? => @Disk.attempt_of_ok (beside t p new) _ _ hremove fault?
    cases hfault : files.disk.renameFault? (beside t p new) (temporary (files.resolve locator))
        (files.resolve locator) with
    | none =>
      left
      refine ⟨_, ?_, replaced_of_move hheld⟩
      simp only [replaceFile, hwrite, Disk.rename, hmove, hfault]
    | some cause =>
      right
      cases hfault' : files.disk.removeFault? (beside t p new)
          (temporary (files.resolve locator)) with
      | none =>
        refine ⟨_, _, ?_, .cleared hfault hfault'⟩
        simp only [replaceFile, hwrite, Disk.rename, hmove, hfault, Disk.remove, hclear, hfault']
      | some cause' =>
        refine ⟨_, _, ?_, .stranded hfault hfault'⟩
        simp only [replaceFile, hwrite, Disk.rename, hmove, hfault, Disk.remove, hclear, hfault']
  · right
    refine ⟨_, t', ?_, .unwritten hunwritten⟩
    simp only [replaceFile, hwrite]

/-! ### Reading again -/

theorem read_of_readFile (h : files.readFile locator t = .ok text) :
    files.store.read locator t = .ok { content := text, version := .ofContent text } :=
  bind_eq_ok_iff.2 ⟨text, h, rfl⟩

theorem read_of_unread (h : files.readFile locator t = .error e) :
    files.store.read locator t = .error e := by
  simp only [store, h]
  rfl

theorem write_of_unread (h : files.readFile locator t = .error e) (new : Text) (version : Version) :
    files.store.write locator new version t = (.error e, t) := by
  simp only [store, h]

/-- A document that was read again is written if it has the version that is handed back. -/
theorem write_of_readFile (h : files.readFile locator t = .ok text) (new : Text) (version : Version) :
    files.store.write locator new version t =
      if Version.ofContent text = version then files.replaceFile locator new t
      else (.error (.storeConflict locator), t) := by
  simp only [store, h]

end FileStore

/-! ## Ways to end -/

section Ways

variable {σ : Type} (files : FileStore) (source : Source (FileTree × σ)) (options : UpdateOptions)
  (locator : Text) (start : FileTree × σ)

/-- The text `c` was read at the start, and `u` was computed from it; `left` is what the requests
    made of the state. -/
structure Computed (c : Text) (u : DocumentUpdate) (left : FileTree × σ) : Prop where
  read : files.readFile locator start.1 = .ok c
  computed : computeUpdate source options c start = (.ok u, left)

/-- What was computed is to be written. -/
structure Due (c : Text) (u : DocumentUpdate) (left : FileTree × σ) : Prop
    extends Computed files source options locator start c u left where
  changed : u.updated ≠ c
  wet : options.dryRun = false

/-- Why an update fails before it writes, and what its requests made of the state by then. -/
inductive Failure : FileTree × σ → Error → Prop where
  | unread {e : Error} (hread : files.readFile locator start.1 = .error e) : Failure start e
  | uncomputed {c : Text} {left : FileTree × σ} {e : Error}
      (hread : files.readFile locator start.1 = .ok c)
      (hcompute : computeUpdate source options c start = (.error e, left)) : Failure left e
  | lost {c : Text} {u : DocumentUpdate} {left : FileTree × σ} {e : Error}
      (hdue : Due files source options locator start c u left)
      (hagain : files.readFile locator left.1 = .error e) : Failure left e
  | conflict {c text : Text} {u : DocumentUpdate} {left : FileTree × σ}
      (hdue : Due files source options locator start c u left)
      (hagain : files.readFile locator left.1 = .ok text) (hother : text ≠ c) :
      Failure left (.storeConflict locator)

/-- How an update ends, if its requests made `left` of the state: it fails before it writes, its write
    is stopped, it does not write, or it replaces the text that was read. -/
inductive Ending : FileTree × σ → Except Error UpdateReport × (FileTree × σ) → Prop where
  | failed {left : FileTree × σ} {e : Error}
      (hfailure : Failure files source options locator start left e) : Ending left (.error e, left)
  | stopped {c : Text} {u : DocumentUpdate} {left : FileTree × σ} {p : Place} {t : FileTree}
      {e : Error} (hdue : Due files source options locator start c u left)
      (hagain : files.readFile locator left.1 = .ok c)
      (hlocate : left.1.locate (files.resolve locator) = .ok p)
      (hstopped : files.Stopped locator left.1 p u.updated e t) :
      Ending left (.error e, (t, left.2))
  | unwritten {c : Text} {u : DocumentUpdate} {left : FileTree × σ}
      (hcomputed : Computed files source options locator start c u left)
      (hsame : u.updated = c ∨ options.dryRun = true) :
      Ending left (.ok { update := u, written := false }, left)
  | replaced {c : Text} {u : DocumentUpdate} {left : FileTree × σ} {p : Place} {t : FileTree}
      (hdue : Due files source options locator start c u left)
      (hlocate : left.1.locate (files.resolve locator) = .ok p)
      (hreplaced : left.1.Replaced t p c u.updated) :
      Ending left (.ok { update := u, written := true }, (t, left.2))

/-- The text that the file has when it is to be written does not have the digest of the one that was
    read, unless they are the same. -/
def NoCollision : Prop :=
  ∀ c text, files.readFile locator start.1 = .ok c →
    files.readFile locator (computeUpdate source options c start).2.1 = .ok text →
    Version.ofContent text = Version.ofContent c → text = c

end Ways

/-! ## The whole update -/

section Update

variable {σ : Type} {files : FileStore} {source : Source (FileTree × σ)} {options : UpdateOptions}
  {locator : Text} {start left : FileTree × σ} {c : Text} {u : DocumentUpdate}

theorem isWritten_iff (hcompute : computeUpdate source options c start = (.ok u, left)) :
    u.isWritten options = true ↔ u.updated ≠ c ∧ options.dryRun = false := by
  obtain ⟨_, updated, updates, -, -, rfl⟩ := computeUpdate_eq_ok_iff.1 hcompute
  rw [DocumentUpdate.isWritten, DocumentUpdate.isChanged, Bool.and_eq_true, bne_iff_ne,
    Bool.not_eq_true']
  exact and_congr_left' ne_comm

/-- A source that keeps the tree a tree leaves a tree. -/
theorem Computed.isTree (h : Computed files source options locator start c u left)
    (htree : start.1.IsTree)
    (hsource : ∀ q state, state.1.IsTree → (source q state).2.1.IsTree) : left.1.IsTree := by
  have hsteps := takes_computeUpdate source options c start
  rw [h.computed] at hsteps
  exact Source.invariant_of_steps (p := fun state => state.1.IsTree) hsource hsteps htree

/-- A text that anybody put in place of the one that was read is kept. -/
theorem Due.conflict (h : Due files source options locator start c u left)
    (hdigest : NoCollision files source options locator start) {text : Text}
    (hagain : files.readFile locator left.1 = .ok text) (hother : text ≠ c) :
    updateDocument files.store source options locator start =
      (.error (.storeConflict locator), left) := by
  have hversion : Version.ofContent text ≠ Version.ofContent c := by
    intro heq
    refine hother (hdigest c text h.read ?_ heq)
    rw [h.computed]
    exact hagain
  refine updateDocument_of_unwritable (FileStore.read_of_readFile h.read) h.computed
    ((isWritten_iff h.computed).2 ⟨h.changed, h.wet⟩) ?_
  rw [FileStore.write_of_readFile hagain, if_neg hversion]

/-- The text that was read is replaced, or the write is stopped. -/
theorem Due.ending (h : Due files source options locator start c u left) (htree : left.1.IsTree)
    (hdigest : NoCollision files source options locator start) :
    Ending files source options locator start left
      (updateDocument files.store source options locator start) := by
  have hread := FileStore.read_of_readFile h.read
  have hwritten := (isWritten_iff h.computed).2 ⟨h.changed, h.wet⟩
  cases hagain : files.readFile locator left.1 with
  | error e =>
    rw [updateDocument_of_unwritable hread h.computed hwritten
      (FileStore.write_of_unread hagain _ _)]
    exact .failed (.lost h hagain)
  | ok text =>
    by_cases hother : text = c
    · subst hother
      obtain ⟨p, hlocate, hheld⟩ := FileStore.exists_of_readFile hagain
      have hwrite := FileStore.write_of_readFile hagain u.updated (Version.ofContent text)
      rw [if_pos rfl] at hwrite
      rcases FileStore.replaceFile_cases htree hlocate hheld u.updated with
        ⟨t, hreplace, hreplaced⟩ | ⟨e, t, hreplace, hstopped⟩
      · rw [updateDocument_of_written hread h.computed hwritten (hwrite.trans hreplace)]
        exact .replaced h hlocate hreplaced
      · rw [updateDocument_of_unwritable hread h.computed hwritten (hwrite.trans hreplace)]
        exact .stopped h hagain hlocate hstopped
    · rw [h.conflict hdigest hagain hother]
      exact .failed (.conflict h hagain hother)

end Update

/-- An update ends in one of the ways, with the state as its requests left it or with the text that was
    read replaced. -/
theorem exists_ending {σ : Type} (files : FileStore) (source : Source (FileTree × σ))
    (options : UpdateOptions) (locator : Text) (start : FileTree × σ) (htree : start.1.IsTree)
    (hsource : ∀ q state, state.1.IsTree → (source q state).2.1.IsTree)
    (hdigest : NoCollision files source options locator start) :
    ∃ left, Relation.ReflTransGen source.Step start left ∧
      Ending files source options locator start left
        (updateDocument files.store source options locator start) := by
  cases hread : files.readFile locator start.1 with
  | error e =>
    refine ⟨start, .refl, ?_⟩
    rw [updateDocument_of_unread (FileStore.read_of_unread hread)]
    exact .failed (.unread hread)
  | ok c =>
    have hsteps := takes_computeUpdate source options c start
    cases hcompute : computeUpdate source options c start with
    | mk outcome left =>
      rw [hcompute] at hsteps
      refine ⟨left, hsteps, ?_⟩
      cases outcome with
      | error e =>
        rw [updateDocument_of_uncomputed (FileStore.read_of_readFile hread) hcompute]
        exact .failed (.uncomputed hread hcompute)
      | ok u =>
        have hcomputed : Computed files source options locator start c u left := ⟨hread, hcompute⟩
        by_cases hdue : u.updated ≠ c ∧ options.dryRun = false
        · exact Due.ending ⟨hcomputed, hdue.1, hdue.2⟩ (hcomputed.isTree htree hsource) hdigest
        · have hwritten : u.isWritten options = false := by
            rw [← Bool.not_eq_true, isWritten_iff hcompute]
            exact hdue
          rw [updateDocument_of_not_written (FileStore.read_of_readFile hread) hcompute hwritten]
          refine .unwritten hcomputed ?_
          by_contra hneither
          rw [not_or, Bool.not_eq_true] at hneither
          exact hdue hneither

/-! ## Without another writer -/

/-- Without another writer the file holds what was read, so its digest is that of no other text. -/
theorem noCollision_of_keeps {σ : Type} {source : Source (FileTree × σ)}
    (hsource : ∀ q, Run.Keeps Prod.fst (source q)) (files : FileStore) (options : UpdateOptions)
    (locator : Text) (start : FileTree × σ) : NoCollision files source options locator start := by
  intro c text hread hagain _
  have hkeeps : (computeUpdate source options c start).2.1 = start.1 :=
    keeps_computeUpdate hsource c start
  rw [hkeeps, hread] at hagain
  exact (Except.ok.inj hagain).symm

/-- Without another writer the requests of an update leave the tree as it was. -/
theorem exists_ending_of_keeps {σ : Type} {source : Source (FileTree × σ)}
    (hsource : ∀ q, Run.Keeps Prod.fst (source q)) (files : FileStore) (options : UpdateOptions)
    (locator : Text) (start : FileTree × σ) (htree : start.1.IsTree) :
    ∃ s, Ending files source options locator start (start.1, s)
      (updateDocument files.store source options locator start) := by
  have hdigest := noCollision_of_keeps hsource files options locator start
  obtain ⟨left, hsteps, hending⟩ := exists_ending files source options locator start htree
    (fun q state hstate => (hsource q state).symm ▸ hstate) hdigest
  have hleft : left.1 = start.1 :=
    Source.invariant_of_steps (p := fun state => state.1 = start.1)
      (fun q state hstate => (hsource q state).trans hstate) hsteps rfl
  exact ⟨left.2, hleft ▸ hending⟩

/-- Without another writer an update that was computed does not fail before it writes. -/
theorem not_failure_of_computed {σ : Type} {files : FileStore} {source : Source (FileTree × σ)}
    {options : UpdateOptions} {locator c : Text} {start left : FileTree × σ} {u : DocumentUpdate}
    {e : Error} (hleft : left.1 = start.1) (hread : files.readFile locator start.1 = .ok c)
    (hcomputed : (computeUpdate source options c start).1 = .ok u) :
    ¬ Failure files source options locator start left e := by
  intro h
  cases h with
  | unread hunread =>
    rw [hread] at hunread
    cases hunread
  | uncomputed hread' hcompute =>
    obtain rfl := Except.ok.inj (hread.symm.trans hread')
    rw [hcompute] at hcomputed
    cases hcomputed
  | lost hdue hagain =>
    rw [hleft, hread] at hagain
    cases hagain
  | conflict hdue hagain hother =>
    rw [hleft, hdue.read] at hagain
    exact hother (Except.ok.inj hagain).symm

/-! ## All ways to fail -/

/-- An update that fails leaves the document as its requests did. On a steady disk it leaves everything
    so, if the file beside the document can be moved or was not there before. -/
theorem Ending.of_error {σ : Type} {files : FileStore} {source : Source (FileTree × σ)}
    {options : UpdateOptions} {locator : Text} {start left state : FileTree × σ} {e : Error}
    (h : Ending files source options locator start left (.error e, state)) (htree : left.1.IsTree) :
    (∀ p, left.1.locate (files.resolve locator) = .ok p →
      left.1.SameBut state.1 (FileStore.sibling p)) ∧
  (files.disk.IsSteady →
      (files.disk.Moves ∨ ∀ p, left.1.locate (files.resolve locator) = .ok p →
        left.1.get? (FileStore.sibling p) = none) →
      state = left) := by
  cases h with
  | failed hfailure => exact ⟨fun p _ => .refl _ _, fun _ _ => rfl⟩
  | stopped hdue hagain hlocate hstopped =>
    constructor
    · intro p hp
      obtain rfl := Except.ok.inj (hlocate.symm.trans hp)
      exact hstopped.sameBut htree hagain hlocate
    · intro hsteady hfree
      rw [hstopped.eq_of_isSteady hsteady (hfree.imp_right fun h => h _ hlocate)]

/-- **An update of a file never overwrites what it has not read.** Whatever its requests make of the
    tree and whatever fails on the disk, it does nothing else to the tree if it does not write. It writes
    only if the file still holds the text that the update was computed from: then the file holds the
    updated text, no file is left beside it, and all else is as the requests left it. If it fails, then
    all is as the requests left it but for the file beside the document. On a steady disk that one is so,
    too, if files can be moved or it was not there. If the file holds another text by then, that text
    stays. -/
theorem write_back {σ : Type} (files : FileStore) (source : Source (FileTree × σ))
    (options : UpdateOptions) (locator : Text) (start : FileTree × σ) (htree : start.1.IsTree)
    (hsource : ∀ q state, state.1.IsTree → (source q state).2.1.IsTree)
    (hdigest : NoCollision files source options locator start) :
    (∃ left, Relation.ReflTransGen source.Step start left ∧
      Ending files source options locator start left
        (updateDocument files.store source options locator start) ∧
      ∀ e, (updateDocument files.store source options locator start).1 = .error e →
        (∀ p, left.1.locate (files.resolve locator) = .ok p → left.1.SameBut
          (updateDocument files.store source options locator start).2.1 (FileStore.sibling p)) ∧
        (files.disk.IsSteady →
          (files.disk.Moves ∨ ∀ p, left.1.locate (files.resolve locator) = .ok p →
            left.1.get? (FileStore.sibling p) = none) →
          (updateDocument files.store source options locator start).2 = left)) ∧
    ∀ c u left text, Due files source options locator start c u left →
      files.readFile locator left.1 = .ok text → text ≠ c →
      updateDocument files.store source options locator start =
        (.error (.storeConflict locator), left) := by
  constructor
  · obtain ⟨left, hsteps, hending⟩ :=
      exists_ending files source options locator start htree hsource hdigest
    have hleft : left.1.IsTree :=
      Source.invariant_of_steps (p := fun state => state.1.IsTree) hsource hsteps htree
    refine ⟨left, hsteps, hending, ?_⟩
    intro e he
    have hresult : updateDocument files.store source options locator start =
        (.error e, (updateDocument files.store source options locator start).2) := Prod.ext he rfl
    rw [hresult] at hending
    exact hending.of_error hleft
  · intro c u left text hdue hagain hother
    exact hdue.conflict hdigest hagain hother

theorem Sample.isTree_documentTree (content : Text) : (Sample.documentTree content).IsTree := by
  refine FileTree.isTree_of_entries fun entry hentry => ?_
  simp only [Sample.documentTree, List.mem_cons, List.not_mem_nil, or_false] at hentry
  rcases hentry with rfl | rfl <;> rfl

/-- An update that is written, one during which the document becomes another one, and one on a disk on
    which no file can be moved: what was written beside the document is removed again. -/
theorem write_back_docs :
    (∃ report state left,
      updateDocument (FileStore.mk "docs" .sound).store (Sample.steady Sample.profile) Sample.options
        "README.md" (Sample.documentTree Sample.albumDocument, ()) = (.ok report, state) ∧
      report.written = true ∧
      Ending (FileStore.mk "docs" .sound) (Sample.steady Sample.profile) Sample.options "README.md"
        (Sample.documentTree Sample.albumDocument, ()) left (.ok report, state)) ∧
    updateDocument (FileStore.mk "docs" .sound).store
        (Sample.meddling Sample.profile (Sample.documentTree "mine")) Sample.options "README.md"
        (Sample.documentTree Sample.albumDocument, ()) =
      (.error (.storeConflict "README.md"), (Sample.documentTree "mine", ())) ∧
    updateDocument (FileStore.mk "docs" Sample.busyDisk).store (Sample.steady Sample.profile)
        Sample.options "README.md" (Sample.documentTree Sample.albumDocument, ()) =
      (.error (.store (.unreplaced "docs/README.md" (.other "Device or resource busy (os error 16)"))),
        (Sample.documentTree Sample.albumDocument, ())) := by
  have hread : ∀ (disk : Disk) (content : Text),
      (content = Sample.albumDocument ∨ content = "mine".toList) →
      (FileStore.mk "docs" disk).readFile "README.md" (Sample.documentTree content) =
        .ok content := by
    rintro disk content (rfl | rfl) <;> rfl
  have hbefore := hread .sound Sample.albumDocument (.inl rfl)
  have hafter := hread .sound "mine" (.inr rfl)
  have hkeeps : ∀ q, Run.Keeps Prod.fst
      ((Sample.steady Sample.profile : Source (FileTree × Unit)) q) := fun _ _ => rfl
  refine ⟨?_, ?_, ?_⟩
  · obtain ⟨report, hreport, hwritten⟩ : ∃ report,
        (updateDocument (FileStore.mk "docs" .sound).store (Sample.steady Sample.profile)
          Sample.options "README.md" (Sample.documentTree Sample.albumDocument, ())).1 = .ok report ∧
          report.written = true := exists_ok_of_any (by decide +kernel)
    have hdigest : NoCollision (FileStore.mk "docs" .sound) (Sample.steady Sample.profile)
        Sample.options "README.md" (Sample.documentTree Sample.albumDocument, ()) :=
      noCollision_of_keeps hkeeps _ _ _ _
    obtain ⟨⟨left, -, hending, -⟩, -⟩ := write_back _ _ _ _ _
      (Sample.isTree_documentTree Sample.albumDocument) (fun _ _ h => h) hdigest
    generalize updateDocument (FileStore.mk "docs" .sound).store (Sample.steady Sample.profile)
      Sample.options "README.md" (Sample.documentTree Sample.albumDocument, ()) = run
      at hreport hending ⊢
    obtain ⟨outcome, state⟩ := run
    obtain rfl : outcome = .ok report := hreport
    exact ⟨report, state, left, rfl, hwritten, hending⟩
  · obtain ⟨u, hcompute, hchanged⟩ : ∃ u, computeUpdate
        (Sample.meddling Sample.profile (Sample.documentTree "mine")) Sample.options
        Sample.albumDocument (Sample.documentTree Sample.albumDocument, ()) =
          (.ok u, (Sample.documentTree "mine", ())) ∧ (u.updated != Sample.albumDocument) = true :=
      Run.exists_eq_ok (by decide +kernel) (by decide +kernel)
    have hdigest : NoCollision (FileStore.mk "docs" .sound)
        (Sample.meddling Sample.profile (Sample.documentTree "mine")) Sample.options "README.md"
        (Sample.documentTree Sample.albumDocument, ()) := by
      intro c text hc htext hversion
      obtain rfl := Except.ok.inj (hbefore.symm.trans hc)
      rw [hcompute] at htext
      obtain rfl := Except.ok.inj (hafter.symm.trans htext)
      exact absurd hversion (by decide +kernel)
    exact (write_back _ _ _ _ _ (Sample.isTree_documentTree Sample.albumDocument)
      (fun _ _ _ => Sample.isTree_documentTree "mine") hdigest).2 _ u _ "mine"
      ⟨⟨hbefore, hcompute⟩, bne_iff_ne.1 hchanged, rfl⟩ hafter (by decide)
  · have hdigest : NoCollision (FileStore.mk "docs" Sample.busyDisk) (Sample.steady Sample.profile)
        Sample.options "README.md" (Sample.documentTree Sample.albumDocument, ()) :=
      noCollision_of_keeps hkeeps _ _ _ _
    obtain ⟨⟨left, hsteps, -, hfailed⟩, -⟩ := write_back _ _ _ _ _
      (Sample.isTree_documentTree Sample.albumDocument) (fun _ _ h => h) hdigest
    have hleft : left.1 = Sample.documentTree Sample.albumDocument :=
      Source.invariant_of_steps (p := fun state => state.1 = Sample.documentTree Sample.albumDocument)
        (fun q state hstate => (hkeeps q state).trans hstate) hsteps rfl
    have houtcome : (updateDocument (FileStore.mk "docs" Sample.busyDisk).store
        (Sample.steady Sample.profile) Sample.options "README.md"
        (Sample.documentTree Sample.albumDocument, ())).1 = .error (.store (.unreplaced
          "docs/README.md" (.other "Device or resource busy (os error 16)"))) := by decide +kernel
    have hplace : (Sample.documentTree Sample.albumDocument).locate "docs/README.md" =
        .ok ["docs".toList, "README.md".toList] := by decide +kernel
    have hfree : ∀ p, left.1.locate "docs/README.md" = .ok p →
        left.1.get? (FileStore.sibling p) = none := by
      intro p hp
      rw [hleft] at hp ⊢
      obtain rfl := Except.ok.inj (hplace.symm.trans hp)
      decide +kernel
    have hstate := (hfailed _ houtcome).2 ⟨fun _ _ _ _ _ => nofun, fun _ _ => rfl⟩ (.inr hfree)
    exact Prod.ext houtcome (hstate.trans (Prod.ext hleft rfl))

end ListeningCharts
