import ListeningCharts.Cli.Run
import ListeningCharts.Proofs.WriteBack

/-! # What a run does to the files

    A run of the program may read many files, but it writes in two cases only (`Effect`):

    * **The first `init`** of a project adds the settings file with the sample in it.
    * **An update that changes the document** replaces it by what was computed from it.

    Every other run leaves the tree as it was. A run that is to write and fails leaves behind what the
    disk makes of the write (`Disk.Unwritten`, `FileStore.Stopped`), and never another document; on a
    steady disk it leaves the tree as it was, too (`files_after_run`). The server takes part in an
    update, but it has no hold of the files.
-/

namespace ListeningCharts

/-- What was a tree with nothing at a place became a tree with a file there that has this text. All
    else is the same. -/
structure FileTree.Added (t t' : FileTree) (p : Place) (text : Text) : Prop where
  free : t.get? p = none
  holds : t'.get? p = some (.file (Utf8.encode text))
  others : ∀ q, q ≠ p → t'.get? q = t.get? q
  current_eq : t'.current = t.current

/-- A text that is put at a path at which there was no file is added. -/
theorem FileTree.added_set {t : FileTree} {p : Place} {path : Text} (hfile : t.isFile path = false)
    (hplace : t.placeFor path = .ok p) (text : Text) :
    t.Added (t.set p (.file (Utf8.encode text))) p text := by
  obtain ⟨hlocate, hfree⟩ := placeFor_eq_ok_iff.1 hplace
  have hp : p ≠ [] := ne_nil_of_get? hfree
  have hnone : t.get? p = none := by
    unfold isFile at hfile
    rw [hlocate] at hfile
    dsimp only at hfile
    cases hentry : t.get? p with
    | none => rfl
    | some entry =>
      cases entry with
      | directory => exact absurd hentry hfree
      | file content =>
        rw [hentry] at hfile
        cases hfile
  refine ⟨hnone, ?_, ?_, rfl⟩
  · rw [get?_set _ _ _ _ hp, if_pos rfl]
  · intro q hq
    rw [get?_set _ _ _ _ hp, if_neg hq]

namespace Cli

/-! ## Runs that change files -/

/-- The invocation is to make the settings file: none of the candidates is a file. -/
structure Invocation.IsFirst (i : Invocation) (t : FileTree) : Prop where
  command : i.command = some .init
  unsettled : ∀ candidate ∈ Settings.candidates,
    t.isFile (FileTree.join (i.root t) candidate) = false

/-- The invocation asks for an update, for which `u` is computed from the text `c` of the document. -/
structure Invocation.Computes (service : Text) (i : Invocation) (w : World) (a : UpdateArguments)
    (plan : Plan) (c : Text) (u : DocumentUpdate) : Prop where
  command : i.command = some (.update a)
  planned : i.plan a w.1 = .ok (plan.readme, some plan)
  read : readDocument w.1 (i.root w.1) plan.readme = .ok c
  computed : (computeUpdate (Client.mk plan.apiKey service).source plan.options c w).1 = .ok u

/-- The invocation asks for an update that changes the document, and not for a dry run. -/
structure Invocation.Rewrites (service : Text) (i : Invocation) (w : World) (a : UpdateArguments)
    (plan : Plan) (c : Text) (u : DocumentUpdate) : Prop
    extends Computes service i w a plan c u where
  wet : a.dryRun = false
  changed : u.updated ≠ c

/-- What a run of an invocation does to the files, by its result. -/
inductive Effect (service : Text) (disk : Disk) (i : Invocation) (w : World) :
    Except Failure Printed → FileTree → Prop where
  | kept {result : Except Failure Printed} (hfirst : ¬ i.IsFirst w.1)
      (hsame : ∀ a plan c u, ¬ i.Rewrites service w a plan c u) :
      Effect service disk i w result w.1
  | made {printed : Printed} {p : Place} {t : FileTree} (hfirst : i.IsFirst w.1)
      (hlocate : w.1.locate (FileTree.join (i.root w.1) newSettingsFile) = .ok p)
      (hadded : w.1.Added t p Settings.sample) : Effect service disk i w (.ok printed) t
  | unmade {fault : IoFault} {t : FileTree} (hfirst : i.IsFirst w.1)
      (hunwritten : disk.Unwritten w.1 (FileTree.join (i.root w.1) newSettingsFile)
        (Utf8.encode Settings.sample) fault t) :
      Effect service disk i w (.error (.unwritable fault)) t
  | rewritten {printed : Printed} {a : UpdateArguments} {plan : Plan} {c : Text}
      {u : DocumentUpdate} {p : Place} {t : FileTree} (hrewrites : i.Rewrites service w a plan c u)
      (hlocate : w.1.locate (FileTree.join (i.root w.1) plan.readme) = .ok p)
      (hreplaced : w.1.Replaced t p c u.updated) : Effect service disk i w (.ok printed) t
  | stopped {a : UpdateArguments} {plan : Plan} {c : Text} {u : DocumentUpdate} {p : Place}
      {t : FileTree} {e : Error} (hrewrites : i.Rewrites service w a plan c u)
      (hlocate : w.1.locate (FileTree.join (i.root w.1) plan.readme) = .ok p)
      (hstopped : (FileStore.mk (i.root w.1) disk).Stopped plan.readme w.1 p u.updated e t) :
      Effect service disk i w (.error (.error e)) t

variable {service : Text} {disk : Disk} {i : Invocation} {a : UpdateArguments} {w : World}

theorem Failure.exitCode_ne_zero (failure : Failure) : failure.exitCode ≠ 0 := by
  unfold exitCode
  split
  · decide
  · decide

theorem Invocation.Computes.plan_eq {a' : UpdateArguments} {plan : Plan} {c : Text}
    {u : DocumentUpdate} (h : i.Computes service w a' plan c u)
    (hcommand : i.command = some (.update a)) :
    i.plan a w.1 = .ok (plan.readme, some plan) := by
  obtain rfl := Command.update.inj (Option.some.inj (hcommand.symm.trans h.command))
  exact h.planned

/-- There is one update that an invocation asks for. -/
theorem Invocation.Computes.unique {a' : UpdateArguments} {plan plan' : Plan} {c c' : Text}
    {u u' : DocumentUpdate} (h : i.Computes service w a plan c u)
    (h' : i.Computes service w a' plan' c' u') : a' = a ∧ plan' = plan ∧ c' = c ∧ u' = u := by
  obtain rfl := Command.update.inj (Option.some.inj (h.command.symm.trans h'.command))
  obtain ⟨-, hplan⟩ := Prod.mk.inj (Except.ok.inj (h.planned.symm.trans h'.planned))
  obtain rfl := Option.some.inj hplan
  obtain rfl := Except.ok.inj (h.read.symm.trans h'.read)
  obtain rfl := Except.ok.inj (h.computed.symm.trans h'.computed)
  exact ⟨rfl, rfl, rfl, rfl⟩

theorem Invocation.not_isFirst {t : FileTree} (h : i.command ≠ some .init) : ¬ i.IsFirst t :=
  fun hfirst => h hfirst.command

theorem Invocation.not_rewrites (h : ∀ a, i.command ≠ some (.update a)) :
    ∀ a plan c u, ¬ i.Rewrites service w a plan c u :=
  fun a _ _ _ hrewrites => h a hrewrites.command

/-! ## Init -/

/-- No candidate is found if none is a file. -/
theorem candidate?_eq_none_iff {t : FileTree} {root : Text} :
    Settings.candidate? t root = none ↔
      ∀ candidate ∈ Settings.candidates, t.isFile (FileTree.join root candidate) = false := by
  unfold Settings.candidate?
  rw [List.find?_eq_none]
  simp only [Bool.not_eq_true]

/-- What `init` does. -/
theorem effect_of_init (hcommand : i.command = some .init) :
    Effect service disk i w (runInvocation service disk i w).1 (runInvocation service disk i w).2.1 := by
  cases hcandidate : Settings.candidate? w.1 (i.root w.1) with
  | some existing =>
    have hfirst : ¬ i.IsFirst w.1 := by
      intro h
      rw [candidate?_eq_none_iff.2 h.unsettled] at hcandidate
      cases hcandidate
    simp only [runInvocation, hcommand, runInit, hcandidate]
    exact .kept hfirst (Invocation.not_rewrites (by simp [hcommand]))
  | none =>
    have hunsettled := candidate?_eq_none_iff.1 hcandidate
    rcases disk.writeText_cases w.1 (FileTree.join (i.root w.1) newSettingsFile) Settings.sample with
      ⟨p, hplace, hwrite⟩ | ⟨fault, t, hunwritten, hwrite⟩
    · have hadded := FileTree.added_set (hunsettled newSettingsFile (by decide)) hplace Settings.sample
      simp only [runInvocation, hcommand, runInit, hcandidate, hwrite]
      exact .made ⟨hcommand, hunsettled⟩ (FileTree.placeFor_eq_ok_iff.1 hplace).1 hadded
    · simp only [runInvocation, hcommand, runInit, hcandidate, hwrite]
      exact .unmade ⟨hcommand, hunsettled⟩ hunwritten

/-! ## Update -/

/-- A plan is for the document that the settings name, and as dry as the update that is asked for. -/
theorem Invocation.of_plan {t : FileTree} {readme : Text} {plan : Plan}
    (h : i.plan a t = .ok (readme, some plan)) :
    plan.readme = readme ∧ plan.options.dryRun = a.dryRun := by
  unfold Invocation.plan at h
  obtain ⟨s, -, h⟩ := bind_eq_ok_iff.1 h
  obtain ⟨formats, -, h⟩ := bind_eq_ok_iff.1 h
  obtain ⟨document, -, h⟩ := bind_eq_ok_iff.1 h
  obtain ⟨regions, -, h⟩ := bind_eq_ok_iff.1 h
  split at h
  · cases h
  · split at h
    · cases h
    · split at h
      · cases h
      · cases h
        exact ⟨rfl, rfl⟩

/-- A run with a plan is an update of the document in the store of files. -/
theorem runInvocation_of_plan {readme : Text} {plan : Plan} (hcommand : i.command = some (.update a))
    (hplan : i.plan a w.1 = .ok (readme, some plan)) : runInvocation service disk i w =
      let (report, w) := updateDocument (FileStore.mk (i.root w.1) disk).store
        (Client.mk plan.apiKey service).source plan.options plan.readme w
      ((report.map (printUpdate i.colors a.diff readme)).mapError .error, w) := by
  simp only [runInvocation, hcommand, runUpdate, hplan]
  rfl

/-- An update fails before it writes, or has nothing to write, or it replaces the text that it read or
    is stopped while it does. -/
theorem effect_of_plan {plan : Plan} (htree : w.1.IsTree) (hcommand : i.command = some (.update a))
    (hplan : i.plan a w.1 = .ok (plan.readme, some plan))
    (hdry : plan.options.dryRun = a.dryRun) :
    Effect service disk i w (runInvocation service disk i w).1 (runInvocation service disk i w).2.1 := by
  -- the server takes part in the update, but it has no hold of the files
  have hkeeps : ∀ q, Run.Keeps Prod.fst
      ((Client.mk plan.apiKey service).source (τ := FileTree) q) := fun _ _ => rfl
  obtain ⟨server, hending⟩ := exists_ending_of_keeps hkeeps (FileStore.mk (i.root w.1) disk)
    plan.options plan.readme w htree
  rw [runInvocation_of_plan hcommand hplan]
  generalize updateDocument (FileStore.mk (i.root w.1) disk).store
    (Client.mk plan.apiKey service).source plan.options plan.readme w = run at hending ⊢
  have hinit : ¬ i.IsFirst w.1 := Invocation.not_isFirst (by simp [hcommand])
  cases hending with
  | failed hfailure =>
    refine .kept hinit fun a' plan' c u h => ?_
    obtain ⟨-, hsame⟩ := Prod.mk.inj (Except.ok.inj (hplan.symm.trans (h.plan_eq hcommand)))
    obtain rfl := Option.some.inj hsame
    have hread : (FileStore.mk (i.root w.1) disk).readFile plan.readme w.1 = .ok c := h.read
    have hleft : ((w.1, server) : World).1 = w.1 := rfl
    exact not_failure_of_computed hleft hread h.computed hfailure
  | @stopped c u _ p t e hdue hagain hlocate hstopped =>
    have hcomputes : i.Computes service w a plan c u :=
      ⟨hcommand, hplan, hdue.read, by rw [hdue.computed]⟩
    exact .stopped ⟨hcomputes, hdry ▸ hdue.wet, hdue.changed⟩ hlocate hstopped
  | @unwritten c u _ hcomputed hneither =>
    have hsame : ∀ a' plan' c' u', ¬ i.Rewrites service w a' plan' c' u' := by
      intro a' plan' c' u' h
      have hcomputes : i.Computes service w a plan c u :=
        ⟨hcommand, hplan, hcomputed.read, by rw [hcomputed.computed]⟩
      obtain ⟨rfl, rfl, rfl, rfl⟩ := hcomputes.unique h.toComputes
      rcases hneither with heq | hwet
      · exact h.changed heq
      · rw [hdry, h.wet] at hwet
        cases hwet
    exact .kept hinit hsame
  | @replaced c u _ p t hdue hlocate hreplaced =>
    have hcomputes : i.Computes service w a plan c u :=
      ⟨hcommand, hplan, hdue.read, by rw [hdue.computed]⟩
    exact .rewritten ⟨hcomputes, hdry ▸ hdue.wet, hdue.changed⟩ hlocate hreplaced

/-- What `update` does. -/
theorem effect_of_update (htree : w.1.IsTree) (hcommand : i.command = some (.update a)) :
    Effect service disk i w (runInvocation service disk i w).1 (runInvocation service disk i w).2.1 := by
  have hinit : ¬ i.IsFirst w.1 := Invocation.not_isFirst (by simp [hcommand])
  cases hplan : i.plan a w.1 with
  | error e =>
    have hsame : ∀ a' plan c u, ¬ i.Rewrites service w a' plan c u := by
      intro a' plan c u h
      have hother := hplan.symm.trans (h.plan_eq hcommand)
      cases hother
    simp only [runInvocation, hcommand, runUpdate, hplan]
    exact .kept hinit hsame
  | ok planned =>
    obtain ⟨readme, plan?⟩ := planned
    cases plan? with
    | none =>
      -- there is no region in the document, so nothing is computed
      have hsame : ∀ a' plan c u, ¬ i.Rewrites service w a' plan c u := by
        intro a' plan c u h
        have hother := hplan.symm.trans (h.plan_eq hcommand)
        simp at hother
      simp only [runInvocation, hcommand, runUpdate, hplan]
      exact .kept hinit hsame
    | some plan =>
      obtain ⟨rfl, hdry⟩ := Invocation.of_plan hplan
      exact effect_of_plan htree hcommand hplan hdry

/-! ## The program -/

namespace Effect

variable {result : Except Failure Printed} {t : FileTree}

/-- An `init` that is to make the settings file makes it, or it fails to write it. -/
theorem of_isFirst (h : Effect service disk i w result t) (hfirst : i.IsFirst w.1) :
    ((∃ printed, result = .ok printed) →
      ∃ p, w.1.locate (FileTree.join (i.root w.1) newSettingsFile) = .ok p ∧
        w.1.Added t p Settings.sample) ∧
    ((¬ ∃ printed, result = .ok printed) →
      ∃ fault, result = .error (.unwritable fault) ∧
        disk.Unwritten w.1 (FileTree.join (i.root w.1) newSettingsFile)
          (Utf8.encode Settings.sample) fault t) := by
  cases h with
  | kept hnot _ => exact absurd hfirst hnot
  | made _ hlocate hadded =>
    exact ⟨fun _ => ⟨_, hlocate, hadded⟩, fun hfailed => absurd ⟨_, rfl⟩ hfailed⟩
  | unmade _ hunwritten => exact ⟨fun ⟨_, hok⟩ => (nomatch hok), fun _ => ⟨_, rfl, hunwritten⟩⟩
  | rewritten hrewrites _ _ => cases hfirst.command.symm.trans hrewrites.command
  | stopped hrewrites _ _ => cases hfirst.command.symm.trans hrewrites.command

/-- An update that is to change the document replaces it, or it is stopped while it writes. -/
theorem of_rewrites {plan : Plan} {c : Text} {u : DocumentUpdate}
    (h : Effect service disk i w result t) (hrewrites : i.Rewrites service w a plan c u) :
    ((∃ printed, result = .ok printed) →
      ∃ p, w.1.locate (FileTree.join (i.root w.1) plan.readme) = .ok p ∧
        w.1.Replaced t p c u.updated) ∧
    ((¬ ∃ printed, result = .ok printed) →
      ∃ p e, w.1.locate (FileTree.join (i.root w.1) plan.readme) = .ok p ∧
        result = .error (.error e) ∧
        (FileStore.mk (i.root w.1) disk).Stopped plan.readme w.1 p u.updated e t) := by
  cases h with
  | kept _ hnot => exact absurd hrewrites (hnot a plan c u)
  | made hfirst _ _ => cases hfirst.command.symm.trans hrewrites.command
  | unmade hfirst _ => cases hfirst.command.symm.trans hrewrites.command
  | rewritten hsame hlocate hreplaced =>
    obtain ⟨-, rfl, rfl, rfl⟩ := hrewrites.toComputes.unique hsame.toComputes
    exact ⟨fun _ => ⟨_, hlocate, hreplaced⟩, fun hfailed => absurd ⟨_, rfl⟩ hfailed⟩
  | stopped hsame hlocate hstopped =>
    obtain ⟨-, rfl, rfl, rfl⟩ := hrewrites.toComputes.unique hsame.toComputes
    exact ⟨fun ⟨_, hok⟩ => (nomatch hok), fun _ => ⟨_, _, hlocate, rfl, hstopped⟩⟩

/-- Any other run leaves the tree alone. -/
theorem eq_of_other (h : Effect service disk i w result t) (hfirst : ¬ i.IsFirst w.1)
    (hsame : ∀ a plan c u, ¬ i.Rewrites service w a plan c u) : t = w.1 := by
  cases h with
  | kept _ _ => rfl
  | made hfirst' _ _ | unmade hfirst' _ => exact absurd hfirst' hfirst
  | rewritten hrewrites _ _ | stopped hrewrites _ _ => exact absurd hrewrites (hsame _ _ _ _)

/-- On a steady disk a run that fails leaves the tree alone, if files can be moved or there is none
    beside the document that is to be replaced. -/
theorem eq_of_isSteady (h : Effect service disk i w result t) (hsteady : disk.IsSteady)
    (hfree : disk.Moves ∨ ∀ a plan c u p, i.Rewrites service w a plan c u →
      w.1.locate (FileTree.join (i.root w.1) plan.readme) = .ok p →
      w.1.get? (FileStore.sibling p) = none)
    (hfailed : ¬ ∃ printed, result = .ok printed) : t = w.1 := by
  cases h with
  | kept _ _ => rfl
  | made _ _ _ | rewritten _ _ _ => exact absurd ⟨_, rfl⟩ hfailed
  | unmade _ hunwritten => exact hunwritten.eq_of_isSteady hsteady
  | stopped hrewrites hlocate hstopped =>
    exact hstopped.eq_of_isSteady hsteady (hfree.imp_right fun h => h _ _ _ _ _ hrewrites hlocate)

end Effect

/-- **What a run of an invocation does to the files.** -/
theorem runInvocation_effect (service : Text) (disk : Disk) (i : Invocation) (htree : w.1.IsTree) :
    Effect service disk i w (runInvocation service disk i w).1
      (runInvocation service disk i w).2.1 := by
  cases hcommand : i.command with
  | none =>
    unfold runInvocation
    rw [hcommand]
    exact .kept (Invocation.not_isFirst (by simp [hcommand]))
      (Invocation.not_rewrites (by simp [hcommand]))
  | some command =>
    cases command with
    | init => exact effect_of_init hcommand
    | update a => exact effect_of_update htree hcommand
    | list | check =>
      unfold runInvocation
      rw [hcommand]
      exact .kept (Invocation.not_isFirst (by simp [hcommand]))
        (Invocation.not_rewrites (by simp [hcommand]))

theorem Outcome.exitCode_eq_zero_iff {o : Outcome} :
    o.exitCode = 0 ↔ ∃ printed, o.result = .ok printed := by
  unfold exitCode
  cases o.result with
  | error failure => simp [failure.exitCode_ne_zero]
  | ok printed => simp

theorem run_of_parse {words : List Text} {env : Environment} (w : World)
    (h : Invocation.parse words env = .ok i) :
    (run service disk words env w).result = (runInvocation service disk i w).1 ∧
      (run service disk words env w).world = (runInvocation service disk i w).2 := by
  unfold run
  rw [h]
  exact ⟨rfl, rfl⟩

/-- **A run writes in two cases only.** The first `init` of a project adds the settings file if it
    succeeds, and it fails only if that file is not written. An update that computes another text than
    the document has, and is no dry run, replaces the document if it succeeds, and leaves no file beside
    it. It fails only if it is stopped while it writes: then all is as it was but for the file beside
    the document. Any other run leaves the tree as it was. On a steady disk so does every run with an
    exit code other than zero, if files can be moved or there is none beside the document. -/
theorem files_after_run (service : Text) (disk : Disk) (words : List Text) (env : Environment)
    (w : World) (htree : w.1.IsTree) :
    (∀ i, Invocation.parse words env = .ok i → i.IsFirst w.1 →
      ((run service disk words env w).exitCode = 0 →
        ∃ p, w.1.locate (FileTree.join (i.root w.1) newSettingsFile) = .ok p ∧
          w.1.Added (run service disk words env w).world.1 p Settings.sample) ∧
      ((run service disk words env w).exitCode ≠ 0 →
        ∃ fault, (run service disk words env w).result = .error (.unwritable fault) ∧
          disk.Unwritten w.1 (FileTree.join (i.root w.1) newSettingsFile)
            (Utf8.encode Settings.sample) fault (run service disk words env w).world.1)) ∧
    (∀ i a plan c u, Invocation.parse words env = .ok i → i.Rewrites service w a plan c u →
      ((run service disk words env w).exitCode = 0 →
        ∃ p, w.1.locate (FileTree.join (i.root w.1) plan.readme) = .ok p ∧
          w.1.Replaced (run service disk words env w).world.1 p c u.updated) ∧
      ((run service disk words env w).exitCode ≠ 0 →
        ∃ p e, w.1.locate (FileTree.join (i.root w.1) plan.readme) = .ok p ∧
          (run service disk words env w).result = .error (.error e) ∧
          (FileStore.mk (i.root w.1) disk).Stopped plan.readme w.1 p u.updated e
            (run service disk words env w).world.1 ∧
          w.1.SameBut (run service disk words env w).world.1 (FileStore.sibling p))) ∧
    ((∀ i, Invocation.parse words env = .ok i →
        ¬ i.IsFirst w.1 ∧ ∀ a plan c u, ¬ i.Rewrites service w a plan c u) →
      (run service disk words env w).world.1 = w.1) ∧
    (disk.IsSteady →
      (disk.Moves ∨ ∀ i a plan c u p, Invocation.parse words env = .ok i →
        i.Rewrites service w a plan c u →
        w.1.locate (FileTree.join (i.root w.1) plan.readme) = .ok p →
        w.1.get? (FileStore.sibling p) = none) →
      (run service disk words env w).exitCode ≠ 0 →
      (run service disk words env w).world.1 = w.1) := by
  rw [ne_eq, Outcome.exitCode_eq_zero_iff]
  cases hparse : Invocation.parse words env with
  | error stop =>
    have hsame : (run service disk words env w).world.1 = w.1 := by
      unfold run
      rw [hparse]
      cases stop <;> rfl
    refine ⟨fun i h => ?_, fun i a plan c u h => ?_, fun _ => hsame, fun _ _ _ => hsame⟩
    · cases h
    · cases h
  | ok i =>
    obtain ⟨hresult, hworld⟩ := @run_of_parse service disk i words env w hparse
    have heffect := runInvocation_effect service disk i htree
    rw [← hresult, ← hworld] at heffect
    refine ⟨?_, ?_, ?_, ?_⟩
    · intro i' hi hfirst
      obtain rfl := Except.ok.inj hi
      exact heffect.of_isFirst hfirst
    · intro i' a plan c u hi hrewrites
      obtain rfl := Except.ok.inj hi
      obtain ⟨hdone, hstopped⟩ := heffect.of_rewrites hrewrites
      refine ⟨hdone, fun hfailed => ?_⟩
      obtain ⟨p, e, hlocate, he, hstopped⟩ := hstopped hfailed
      exact ⟨p, e, hlocate, he, hstopped, hstopped.sameBut htree hrewrites.read hlocate⟩
    · intro hother
      exact heffect.eq_of_other (hother i rfl).1 (hother i rfl).2
    · intro hsteady hfree hfailed
      exact heffect.eq_of_isSteady hsteady
        (hfree.imp_right fun h a plan c u p => h i a plan c u p rfl) hfailed

/-- A first `init`, an update that changes the document, a check of a document that is not there, and
    the same update on a disk without room for it: the document stays. -/
theorem files_after_run_docs :
    let service : Text := "http://127.0.0.1:8080/"
    let w : World := (Sample.documentTree Sample.albumDocument, Sample.albumServer)
    let update : List Text := ["update", "--path", "docs", "--user", "rj", "--api-key", "key"]
    (∃ p, w.1.Added (run service .sound ["init", "--path", "docs"] {} w).world.1 p
      Settings.sample) ∧
    (∃ p u, w.1.Replaced (run service .sound update {} w).world.1 p Sample.albumDocument u ∧
      u ≠ Sample.albumDocument) ∧
    (run service .sound ["check"] {} w).world.1 = w.1 ∧
    ((run service Sample.fullDisk update {} w).exitCode = 2 ∧
      w.1.SameBut (run service Sample.fullDisk update {} w).world.1
        ["docs".toList, "README.md.lastmark.tmp".toList]) := by
  intro service w update
  have htree : w.1.IsTree := Sample.isTree_documentTree Sample.albumDocument
  let a : UpdateArguments := { user := some "rj", apiKey := some "key" }
  let i : Invocation := { command := some (.update a), path := some "docs" }
  have hparse : Invocation.parse update {} = .ok i := by decide +kernel
  have hread : readDocument w.1 "docs" "README.md" = .ok Sample.albumDocument := by decide +kernel
  -- the plan is for the document that was put there, and the reply is rendered into it
  obtain ⟨⟨readme, plan?⟩, hplan, hsome⟩ : ∃ planned, i.plan a w.1 = .ok planned ∧
      (planned.2.any fun plan => planned.1 == "README.md".toList &&
        (computeUpdate (Client.mk plan.apiKey service).source plan.options Sample.albumDocument
          w).1.toOption.any fun u => u.updated != Sample.albumDocument) = true :=
    exists_ok_of_any (by decide +kernel)
  obtain ⟨plan, rfl, hsome⟩ := (Option.any_eq_true _ _).1 hsome
  obtain ⟨hreadme, hcompute⟩ := Bool.and_eq_true_iff.1 hsome
  obtain ⟨u, hcomputed, hchanged⟩ := exists_ok_of_any hcompute
  obtain rfl : readme = "README.md" := eq_of_beq hreadme
  obtain ⟨hname, -⟩ := Invocation.of_plan hplan
  have hrewrites : i.Rewrites service w a plan Sample.albumDocument u :=
    ⟨⟨rfl, by rw [hname, hplan], by rw [hname]; exact hread, hcomputed⟩, rfl, bne_iff_ne.1 hchanged⟩
  refine ⟨?_, ?_, ?_, ?_⟩
  · have hinitParse : Invocation.parse ["init", "--path", "docs"] {} =
        .ok { command := some .init, path := some "docs" } := by decide +kernel
    have hcode : (run service .sound ["init", "--path", "docs"] {} w).exitCode = 0 := by
      decide +kernel
    have hunsettled : ∀ candidate ∈ Settings.candidates,
        w.1.isFile (FileTree.join "docs" candidate) = false := by decide +kernel
    obtain ⟨hinit, -⟩ := files_after_run service .sound ["init", "--path", "docs"] {} w htree
    obtain ⟨p, -, hadded⟩ := (hinit _ hinitParse ⟨rfl, hunsettled⟩).1 hcode
    exact ⟨p, hadded⟩
  · have hcode : (run service .sound update {} w).exitCode = 0 := by decide +kernel
    obtain ⟨-, hupdate, -⟩ := files_after_run service .sound update {} w htree
    obtain ⟨p, -, hreplaced⟩ := (hupdate i a plan _ u hparse hrewrites).1 hcode
    exact ⟨p, u.updated, hreplaced, hrewrites.changed⟩
  · have hcode : (run service .sound ["check"] {} w).exitCode ≠ 0 := by decide +kernel
    obtain ⟨-, -, -, hfailed⟩ := files_after_run service .sound ["check"] {} w htree
    exact hfailed Disk.isSteady_sound (.inl Disk.moves_sound) hcode
  · have hcode : (run service Sample.fullDisk update {} w).exitCode = 2 := by decide +kernel
    obtain ⟨-, hupdate, -⟩ := files_after_run service Sample.fullDisk update {} w htree
    obtain ⟨p, e, hlocate, -, -, hsame⟩ :=
      (hupdate i a plan _ u hparse hrewrites).2 (by rw [hcode]; decide)
    have hplace : w.1.locate (FileTree.join "docs" "README.md") =
        .ok ["docs".toList, "README.md".toList] := by decide +kernel
    rw [hname] at hlocate
    obtain rfl := Except.ok.inj (hplace.symm.trans hlocate)
    exact ⟨hcode, hsame⟩

end Cli

end ListeningCharts
