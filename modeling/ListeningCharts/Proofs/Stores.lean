import ListeningCharts.Proofs.Runs
import ListeningCharts.Store.Basic

/-! # Updates in a store

    An update in a store reads the document, computes the update, and writes the document back if it
    changed. This module says what such a run consists of (`updateDocument_eq_ok`), and how it goes
    if the update is written (`updateDocument_of_written`) or not (`updateDocument_of_not_written`).

    A store **reads back** if it finds under a locator what was written there. The store of one
    document in memory does.
-/

namespace ListeningCharts

variable {σ τ : Type}

/-- What was written under the locator is read there. -/
def DocumentStore.ReadsBack (store : DocumentStore τ) (locator : Text) : Prop :=
  ∀ (content : Text) (version : Version) (t t' : τ),
    store.write locator content version t = (.ok (), t') →
      ∃ version', store.read locator t' = .ok { content, version := version' }

theorem MemoryDocument.read_eq (d : MemoryDocument) (locator : Text) :
    store.read locator d = .ok { content := d.content, version := .ofContent d.content } := rfl

theorem MemoryDocument.write_eq (d : MemoryDocument) (locator content : Text) :
    store.write locator content (.ofContent d.content) d =
      (.ok (), { content, writes := d.writes + 1 }) := if_pos rfl

theorem MemoryDocument.store_readsBack (locator : Text) :
    MemoryDocument.store.ReadsBack locator := by
  intro content version t t' h
  simp only [store] at h
  split at h
  · cases h
    exact ⟨.ofContent content, read_eq _ _⟩
  · cases h

variable {store : DocumentStore τ} {source : Source (τ × σ)} {options : UpdateOptions}
  {locator : Text} {t t₁ : τ} {s s₁ : σ}

/-- Whether an update is written to the store. -/
def DocumentUpdate.isWritten (u : DocumentUpdate) (options : UpdateOptions) : Bool :=
  u.isChanged && !options.dryRun

/-- What an update in a store did if it succeeded. -/
theorem updateDocument_eq_ok {report : UpdateReport}
    (h : updateDocument store source options locator (t, s) = (.ok report, (t₁, s₁))) :
    ∃ stored u t', store.read locator t = .ok stored ∧
      (computeUpdate source options stored.content (t, s)).1 = .ok u ∧
      (computeUpdate source options stored.content (t, s)).2.1 = t' ∧
      report = { update := u, written := u.isWritten options } ∧
      if u.isWritten options = true then
        store.write locator u.updated stored.version t' = (.ok (), t₁)
      else t₁ = t' := by
  rw [updateDocument] at h
  -- read, compute, and write: each of the three has to have succeeded
  obtain ⟨stored, state, hread, hrest⟩ := Run.bind_eq_ok_iff.1 h
  obtain ⟨u, ⟨t', s'⟩, hcompute, hend⟩ := Run.bind_eq_ok_iff.1 hrest
  have hstored : store.read locator t = .ok stored := congrArg Prod.fst hread
  obtain rfl : (t, s) = state := congrArg Prod.snd hread
  refine ⟨stored, u, t', hstored, by rw [hcompute], by rw [hcompute], ?_⟩
  cases hwritten : u.isWritten options with
  | true =>
    rw [if_pos rfl]
    rw [DocumentUpdate.isWritten] at hwritten
    rw [if_pos hwritten] at hend
    obtain ⟨_, state, hwrite, hpure⟩ := Run.bind_eq_ok_iff.1 hend
    cases hpure
    refine ⟨rfl, ?_⟩
    have houtcome : (store.write locator u.updated stored.version t').1 = .ok () :=
      congrArg Prod.fst hwrite
    have hleft : (store.write locator u.updated stored.version t').2 = t₁ :=
      congrArg (fun out => out.2.1) hwrite
    exact Prod.ext houtcome hleft
  | false =>
    rw [if_neg Bool.false_ne_true]
    rw [DocumentUpdate.isWritten] at hwritten
    rw [hwritten, if_neg Bool.false_ne_true] at hend
    cases hend
    exact ⟨rfl, rfl⟩

/-- An update that is to be written changes the store as its write does. -/
theorem updateDocument_of_written {stored : StoredDocument} {u : DocumentUpdate} {t₂ : τ}
    (hread : store.read locator t = .ok stored)
    (hcompute : computeUpdate source options stored.content (t, s) = (.ok u, (t₁, s₁)))
    (hwritten : u.isWritten options = true)
    (hwrite : store.write locator u.updated stored.version t₁ = (.ok (), t₂)) :
    updateDocument store source options locator (t, s) =
      (.ok { update := u, written := true }, (t₂, s₁)) := by
  rw [updateDocument]
  refine Run.bind_eq_ok_iff.2 ⟨stored, (t, s), congrArg (·, (t, s)) hread,
    Run.bind_eq_ok_iff.2 ⟨u, (t₁, s₁), hcompute, ?_⟩⟩
  rw [DocumentUpdate.isWritten] at hwritten
  rw [if_pos hwritten]
  refine Run.bind_eq_ok_iff.2 ⟨(), (t₂, s₁), ?_, rfl⟩
  rw [DocumentStore.writeIn, hwrite]

/-- An update that is not to be written leaves the store to its source. -/
theorem updateDocument_of_not_written {stored : StoredDocument} {u : DocumentUpdate}
    (hread : store.read locator t = .ok stored)
    (hcompute : computeUpdate source options stored.content (t, s) = (.ok u, (t₁, s₁)))
    (hwritten : u.isWritten options = false) :
    updateDocument store source options locator (t, s) =
      (.ok { update := u, written := false }, (t₁, s₁)) := by
  rw [updateDocument]
  refine Run.bind_eq_ok_iff.2 ⟨stored, (t, s), congrArg (·, (t, s)) hread,
    Run.bind_eq_ok_iff.2 ⟨u, (t₁, s₁), hcompute, ?_⟩⟩
  rw [DocumentUpdate.isWritten] at hwritten
  rw [hwritten]
  rfl

/-- An update of a document that cannot be read does nothing. -/
theorem updateDocument_of_unread {e : Error} (hread : store.read locator t = .error e) :
    updateDocument store source options locator (t, s) = (.error e, (t, s)) := by
  rw [updateDocument]
  exact Run.bind_eq_error_iff.2 (.inl (congrArg (·, (t, s)) hread))

/-- An update that cannot be computed leaves the store to its source. -/
theorem updateDocument_of_uncomputed {stored : StoredDocument} {e : Error}
    (hread : store.read locator t = .ok stored)
    (hcompute : computeUpdate source options stored.content (t, s) = (.error e, (t₁, s₁))) :
    updateDocument store source options locator (t, s) = (.error e, (t₁, s₁)) := by
  rw [updateDocument]
  refine Run.bind_eq_error_iff.2 (.inr ⟨stored, (t, s), congrArg (·, (t, s)) hread, ?_⟩)
  exact Run.bind_eq_error_iff.2 (.inl hcompute)

/-- An update whose write fails leaves the store as the write does. -/
theorem updateDocument_of_unwritable {stored : StoredDocument} {u : DocumentUpdate} {e : Error} {t₂ : τ}
    (hread : store.read locator t = .ok stored)
    (hcompute : computeUpdate source options stored.content (t, s) = (.ok u, (t₁, s₁)))
    (hwritten : u.isWritten options = true)
    (hwrite : store.write locator u.updated stored.version t₁ = (.error e, t₂)) :
    updateDocument store source options locator (t, s) = (.error e, (t₂, s₁)) := by
  rw [updateDocument]
  refine Run.bind_eq_error_iff.2 (.inr ⟨stored, (t, s), congrArg (·, (t, s)) hread,
    Run.bind_eq_error_iff.2 (.inr ⟨u, (t₁, s₁), hcompute, ?_⟩)⟩)
  rw [DocumentUpdate.isWritten] at hwritten
  rw [if_pos hwritten]
  refine Run.bind_eq_error_iff.2 (.inl ?_)
  rw [DocumentStore.writeIn, hwrite]

/-- What is beside the store is left to the source, whether the update is written or not. -/
theorem updateDocument_beside (source : Source (τ × σ)) (options : UpdateOptions) (s : σ)
    {stored : StoredDocument} (hread : store.read locator t = .ok stored) :
    (updateDocument store source options locator (t, s)).2.2 =
      (computeUpdate source options stored.content (t, s)).2.2 := by
  cases hcompute : computeUpdate source options stored.content (t, s) with
  | mk outcome left =>
    obtain ⟨t₁, s₁⟩ := left
    cases outcome with
    | error e => rw [updateDocument_of_uncomputed hread hcompute]
    | ok u =>
      by_cases hwritten : u.isWritten options = true
      · rcases hwrite : store.write locator u.updated stored.version t₁ with ⟨e | _, t₂⟩
        · rw [updateDocument_of_unwritable hread hcompute hwritten hwrite]
        · rw [updateDocument_of_written hread hcompute hwritten hwrite]
      · rw [Bool.not_eq_true] at hwritten
        rw [updateDocument_of_not_written hread hcompute hwritten]

end ListeningCharts
