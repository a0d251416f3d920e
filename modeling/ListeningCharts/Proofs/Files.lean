import ListeningCharts.Proofs.Encoding
import ListeningCharts.Proofs.Stores
import ListeningCharts.Store.Files

/-! # Documents in files

    A path leads to the same place as long as no directory on the way is lost (`walk_mono`). Writing
    a document makes a file and moves it over another file, so it loses no directory, and the path
    of the document leads to the new file afterwards (`FileStore.store_readsBack`).

    On a disk a write may fail, and then it may leave a part of a text behind
    (`Disk.writeText_cases`). On a steady disk it leaves nothing (`Disk.IsSteady`).
-/

namespace ListeningCharts

namespace FileTree

variable {t t' : FileTree}

/-! ## Directories -/

/-- Every directory of the one tree is a directory of the other. -/
def KeepsDirectories (t t' : FileTree) : Prop :=
  ∀ p, t.get? p = some .directory → t'.get? p = some .directory

theorem KeepsDirectories.trans {t'' : FileTree} (h : t.KeepsDirectories t')
    (h' : t'.KeepsDirectories t'') : t.KeepsDirectories t'' := fun p hp => h' p (h p hp)

/-- **A path leads where it led** if no directory is lost. -/
theorem walk_mono (hkeeps : t.KeepsDirectories t') {place p : Place} {segments : List Text}
    (h : t.walk place segments = .ok p) : t'.walk place segments = .ok p := by
  induction segments generalizing place with
  | nil => exact h
  | cons s segments ih =>
    rw [walk] at h ⊢
    split at h
    · cases h
    · cases h
    · next hdirectory =>
      rw [hkeeps place hdirectory]
      split at h
      · next hstay =>
        rw [if_pos hstay]
        exact ih h
      · next hstay =>
        rw [if_neg hstay]
        split at h
        · next hup =>
          rw [if_pos hup]
          exact ih h
        · next hup =>
          rw [if_neg hup]
          exact ih h

theorem locate_mono (hkeeps : t.KeepsDirectories t') (hcurrent : t'.current = t.current) {path : Text}
    {p : Place} (h : t.locate path = .ok p) : t'.locate path = .ok p := by
  rw [locate.eq_def] at h ⊢
  split at h
  · cases h
  · exact walk_mono hkeeps h
  · rw [hcurrent]
    exact walk_mono hkeeps h

theorem ne_nil_of_get? {p : Place} (h : t.get? p ≠ some .directory) : p ≠ [] := by
  rintro rfl
  exact h (if_pos rfl)

theorem keeps_set {p : Place} (h : t.get? p ≠ some .directory) (e : Entry) :
    t.KeepsDirectories (t.set p e) := by
  intro q hq
  rw [get?_set t p q e (ne_nil_of_get? h)]
  split
  · next heq =>
    rw [heq] at hq
    exact absurd hq h
  · exact hq

theorem keeps_erase {p : Place} (h : t.get? p ≠ some .directory) : t.KeepsDirectories (t.erase p) := by
  intro q hq
  rw [get?_erase t p q (ne_nil_of_get? h)]
  split
  · next heq =>
    rw [heq] at hq
    exact absurd hq h
  · exact hq

/-! ## Changes at one place -/

/-- The same is found in both trees, except at one place. -/
structure SameBut (t t' : FileTree) (p : Place) : Prop where
  others : ∀ q, q ≠ p → t'.get? q = t.get? q
  current_eq : t'.current = t.current

theorem SameBut.refl (t : FileTree) (p : Place) : t.SameBut t p := ⟨fun _ _ => rfl, rfl⟩

theorem sameBut_set {p : Place} (hp : p ≠ []) (e : Entry) : t.SameBut (t.set p e) p :=
  ⟨fun q hq => by rw [get?_set t p q e hp, if_neg hq], rfl⟩

theorem SameBut.erase {p : Place} (h : t.SameBut t' p) (hp : p ≠ []) : t.SameBut (t'.erase p) p :=
  ⟨fun q hq => by rw [get?_erase t' p q hp, if_neg hq, h.others q hq], h.current_eq⟩

/-- What is put where nothing was and erased again leaves no trace. -/
theorem erase_set_of_free {p : Place} (hp : p ≠ []) (hfree : t.get? p = none) (e : Entry) :
    (t.set p e).erase p = t := by
  unfold get? at hfree
  rw [if_neg hp, List.lookup_eq_none_iff] at hfree
  have hself : (t.entries.filter fun x => x.1 != p) = t.entries :=
    List.filter_eq_self.2 fun x hx => by simpa [bne_comm] using hfree x hx
  simp [set, erase, hself]

/-! ## Files -/

/-- A text that was read is that of the file at the path. -/
theorem exists_of_readText {path text : Text} (h : t.readText path = .ok text) :
    ∃ p, t.locate path = .ok p ∧ t.get? p = some (.file (Utf8.encode text)) := by
  obtain ⟨p, hp, h⟩ := bind_eq_ok_iff.1 h
  refine ⟨p, hp, ?_⟩
  split at h
  · cases h
  · cases h
  · next content hentry =>
    cases htext : Utf8.decode? content with
    | none =>
      rw [htext] at h
      cases h
    | some decoded =>
      rw [htext] at h
      cases h
      rw [hentry, Utf8.eq_encode_of_decode? htext]

/-- A text that was encoded into a file is read there. -/
theorem readText_of_encoded {path text : Text} {p : Place} (hp : t.locate path = .ok p)
    (hentry : t.get? p = some (.file (Utf8.encode text))) : t.readText path = .ok text := by
  refine bind_eq_ok_iff.2 ⟨p, hp, ?_⟩
  rw [hentry]
  simp only [Utf8.decode?_encode]

/-- A file can be written where a path leads, unless a directory is there. -/
theorem placeFor_eq_ok_iff {path : Text} {p : Place} :
    t.placeFor path = .ok p ↔ t.locate path = .ok p ∧ t.get? p ≠ some .directory := by
  unfold placeFor
  rw [bind_eq_ok_iff]
  constructor
  · rintro ⟨q, hq, h⟩
    split at h
    · cases h
    · next hother =>
      cases h
      exact ⟨hq, hother⟩
  · rintro ⟨hp, hfree⟩
    refine ⟨p, hp, ?_⟩
    split
    · next hdirectory => exact absurd hdirectory hfree
    · rfl

/-- What moving a file does to the tree. -/
theorem rename_eq_ok_iff {source target : Text} : t.rename source target = .ok t' ↔
    ∃ p q content, t.locate source = .ok p ∧ t.placeFor target = .ok q ∧
      t.get? p = some (.file content) ∧ t' = (t.erase p).set q (.file content) := by
  unfold rename
  simp only [bind_eq_ok_iff]
  constructor
  · rintro ⟨p, hp, q, hq, h⟩
    split at h
    · cases h
    · cases h
    · next content hentry =>
      cases h
      exact ⟨p, q, content, hp, hq, hentry, rfl⟩
  · rintro ⟨p, q, content, hp, hq, hentry, rfl⟩
    exact ⟨p, hp, q, hq, by rw [hentry]⟩

/-- What removing a file does to the tree. -/
theorem remove_eq_ok {path : Text} {p : Place} {e : Entry} (hp : t.placeFor path = .ok p)
    (hentry : t.get? p = some e) : t.remove path = .ok (t.erase p) := by
  refine bind_eq_ok_iff.2 ⟨p, hp, ?_⟩
  rw [hentry]

end FileTree

/-! ## Disks -/

namespace Disk

variable {d : Disk} {t t' : FileTree} {path text : Text} {content : Bytes} {fault : IoFault}

/-- Why a write fails, and what it leaves of the tree. -/
inductive Unwritten (d : Disk) (t : FileTree) (path : Text) (content : Bytes) :
    IoFault → FileTree → Prop where
  /-- There is no way to the file, or a directory is in its place. -/
  | misplaced {fault : IoFault} (hplace : t.placeFor path = .error fault) :
      Unwritten d t path content fault t
  | refused {p : Place} {cause : IoFault} (hplace : t.placeFor path = .ok p)
      (hfault : d.writeFault? t path content = some (.refused cause)) :
      Unwritten d t path content cause t
  /-- The file is left with a part of its content. -/
  | broken {p : Place} {written : Nat} {cause : IoFault} (hplace : t.placeFor path = .ok p)
      (hfault : d.writeFault? t path content = some (.broken written cause)) :
      Unwritten d t path content cause (t.set p (.file (content.take written)))

/-- **A write puts the whole text in its place, or it fails for one of these reasons.** -/
theorem writeText_cases (d : Disk) (t : FileTree) (path text : Text) :
    (∃ p, t.placeFor path = .ok p ∧
      d.writeText path text t = (.ok (), t.set p (.file (Utf8.encode text)))) ∨
    ∃ fault t', d.Unwritten t path (Utf8.encode text) fault t' ∧
      d.writeText path text t = (.error fault, t') := by
  unfold writeText
  cases hplace : t.placeFor path with
  | error fault => exact .inr ⟨fault, t, .misplaced hplace, rfl⟩
  | ok p =>
    dsimp only
    cases hfault : d.writeFault? t path (Utf8.encode text) with
    | none => exact .inl ⟨p, rfl, rfl⟩
    | some failure =>
      cases failure with
      | refused cause => exact .inr ⟨cause, t, .refused hplace hfault, rfl⟩
      | broken written cause => exact .inr ⟨cause, _, .broken hplace hfault, rfl⟩

/-- A change that the tree has room for is made, unless the disk refuses it. -/
theorem attempt_of_ok {change : Except IoFault FileTree} (h : change = .ok t')
    (fault? : Option IoFault) : attempt t change fault? =
      match fault? with
      | none => (.ok (), t')
      | some cause => (.error cause, t) := by
  subst h
  cases fault? <;> rfl

theorem attempt_eq_ok_iff {change : Except IoFault FileTree} {fault? : Option IoFault} :
    attempt t change fault? = (.ok (), t') ↔ change = .ok t' ∧ fault? = none := by
  cases change <;> cases fault? <;> simp [attempt]

/-- A write that fails has not begun, and what was written can be removed. -/
structure IsSteady (d : Disk) : Prop where
  unbroken : ∀ t path content written cause,
    d.writeFault? t path content ≠ some (.broken written cause)
  clears : ∀ t path, d.removeFault? t path = none

/-- Every file can be moved. -/
def Moves (d : Disk) : Prop := ∀ t source target, d.renameFault? t source target = none

theorem isSteady_sound : sound.IsSteady := ⟨fun _ _ _ _ _ => nofun, fun _ _ => rfl⟩

theorem moves_sound : sound.Moves := fun _ _ _ => rfl

/-- On a steady disk a write that fails leaves the tree as it was. -/
theorem Unwritten.eq_of_isSteady (h : d.Unwritten t path content fault t') (hsteady : d.IsSteady) :
    t' = t := by
  cases h with
  | misplaced hplace => rfl
  | refused hplace hfault => rfl
  | broken hplace hfault => exact absurd hfault (hsteady.unbroken _ _ _ _ _)

/-- A write that fails changes nothing but the file that it is about. -/
theorem Unwritten.sameBut (h : d.Unwritten t path content fault t') {p : Place}
    (hlocate : t.locate path = .ok p) : t.SameBut t' p := by
  cases h with
  | misplaced hplace => exact .refl t p
  | refused hplace hfault => exact .refl t p
  | broken hplace hfault =>
    obtain ⟨hq, hfree⟩ := FileTree.placeFor_eq_ok_iff.1 hplace
    obtain rfl := Except.ok.inj (hq.symm.trans hlocate)
    exact FileTree.sameBut_set (FileTree.ne_nil_of_get? hfree) _

end Disk

/-! ## The store -/

namespace FileStore

open FileTree

/-- A document that is replaced is written to a file that is then moved. -/
theorem exists_of_replaceFile {s : FileStore} {locator content : Text} {t t' : FileTree}
    (h : s.replaceFile locator content t = (.ok (), t')) :
    ∃ p, t.placeFor (temporary (s.resolve locator)) = .ok p ∧
      (t.set p (.file (Utf8.encode content))).rename (temporary (s.resolve locator))
        (s.resolve locator) = .ok t' := by
  unfold replaceFile at h
  rcases s.disk.writeText_cases t (temporary (s.resolve locator)) content with
    ⟨p, hplace, hwrite⟩ | ⟨fault, t₁, -, hwrite⟩
  · refine ⟨p, hplace, ?_⟩
    simp only [hwrite] at h
    split at h
    · next t₂ hrename =>
      cases h
      exact (Disk.attempt_eq_ok_iff.1 hrename).1
    · cases h
  · simp only [hwrite] at h
    cases h

/-- A document that was replaced is read as what it was replaced by. -/
theorem readText_of_replaceFile {s : FileStore} {locator content current : Text}
    {t t' : FileTree} (hcurrent : t.readText (s.resolve locator) = .ok current)
    (h : s.replaceFile locator content t = (.ok (), t')) :
    t'.readText (s.resolve locator) = .ok content := by
  obtain ⟨p, hplace, hrename⟩ := exists_of_replaceFile h
  obtain ⟨hp, hfree⟩ := placeFor_eq_ok_iff.1 hplace
  obtain ⟨p', q, moved, hp', hq, hentry, rfl⟩ := rename_eq_ok_iff.1 hrename
  obtain ⟨q', hq', hold⟩ := exists_of_readText hcurrent
  generalize hnew : Entry.file (Utf8.encode content) = new at hp' hq hentry ⊢
  -- the new file's bytes do not matter to the paths, only that it is no directory
  have hdirectory : new ≠ .directory := by
    rw [← hnew]
    exact Entry.noConfusion
  have hset := fun q => t.get?_set p q new (ne_nil_of_get? hfree)
  have hset' : (t.set p new).get? p = some new := by rw [hset, if_pos rfl]
  -- both paths still lead where they led before the new file was there
  have hkeeps := keeps_set hfree new
  obtain rfl := Except.ok.inj ((locate_mono hkeeps rfl hp).symm.trans hp')
  obtain rfl := Except.ok.inj ((locate_mono hkeeps rfl hq').symm.trans (placeFor_eq_ok_iff.1 hq).1)
  obtain rfl := Option.some.inj (hset'.symm.trans hentry)
  have herased : (t.set p (.file moved)).get? p ≠ some .directory := by
    rw [hset']
    exact fun h => hdirectory (Option.some.inj h)
  have hreplaced : ((t.set p (.file moved)).erase p).get? q' ≠ some .directory := by
    rw [get?_erase _ p q' (ne_nil_of_get? hfree), hset, hold]
    split <;> simp
  have hkeeps' := (hkeeps.trans (keeps_erase herased)).trans (keeps_set hreplaced (.file moved))
  refine readText_of_encoded (locate_mono hkeeps' rfl hq') ?_
  rw [get?_set _ _ _ _ (ne_nil_of_get? hreplaced), if_pos rfl, ← hnew]

/-- **The store of files reads back**. -/
theorem store_readsBack (s : FileStore) (locator : Text) : s.store.ReadsBack locator := by
  intro content version t t' h
  simp only [store] at h
  cases hcurrent : s.readFile locator t with
  | error e =>
    simp only [hcurrent] at h
    cases h
  | ok current =>
    simp only [hcurrent] at h
    split at h
    · have hread := readText_of_replaceFile (mapError_eq_ok_iff.1 hcurrent) h
      exact ⟨.ofContent content, bind_eq_ok_iff.2 ⟨content, mapError_eq_ok_iff.2 hread, rfl⟩⟩
    · cases h

end FileStore

end ListeningCharts
