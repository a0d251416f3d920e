import ListeningCharts.Sha256
import ListeningCharts.Update

/-! # Document stores

A store keeps documents under locators. What is read carries a version, and a write that hands back
a version is refused if the document has another one by then. A write has an outcome and leaves a
store, so what a write that fails does to the store is up to the store.
-/

namespace ListeningCharts

/-- The revision of a document. -/
structure Version where
  digest : Text
  deriving DecidableEq, Repr

/-- The version of a document is the SHA-256 digest of its content. -/
def Version.ofContent (content : Text) : Version := ⟨Sha256.digest (Utf8.encode content)⟩

/-- A document as it was read. -/
structure StoredDocument where
  content : Text
  version : Version
  deriving DecidableEq, Repr

/-- Reading and writing documents in a store of type `τ`. -/
structure DocumentStore (τ : Type) where
  read : (locator : Text) → τ → Except Error StoredDocument
  write : (locator content : Text) → (version : Version) → Run τ Unit

/-- The outcome of updating a document in a store. -/
structure UpdateReport where
  update : DocumentUpdate
  /-- Whether the store was written to. -/
  written : Bool
  deriving DecidableEq, Repr

/-- Reads from the store, the first half of a state. -/
def DocumentStore.readIn {τ σ : Type} (store : DocumentStore τ) (locator : Text) :
    Run (τ × σ) StoredDocument := fun (t, s) => (store.read locator t, (t, s))

/-- Writes to the store, the first half of a state. -/
def DocumentStore.writeIn {τ σ : Type} (store : DocumentStore τ) (locator content : Text)
    (version : Version) : Run (τ × σ) Unit := fun (t, s) =>
  let (outcome, t) := store.write locator content version t
  (outcome, (t, s))

/-- Renders every region of a document in a store anew and writes it back once. The store is not
asked to write if the document stays as it is, in a dry run, or if any step fails before. The source
may itself touch the store, as another writer would. -/
def updateDocument {τ σ : Type} (store : DocumentStore τ) (source : Source (τ × σ))
    (options : UpdateOptions) (locator : Text) : Run (τ × σ) UpdateReport := do
  let stored ← store.readIn locator
  let update ← computeUpdate source options stored.content
  if update.isChanged && !options.dryRun then
    store.writeIn locator update.updated stored.version
    return { update, written := true }
  else return { update, written := false }

/-! ## In memory -/

/-- One document in memory, with a count of the writes to it. -/
structure MemoryDocument where
  content : Text
  writes : Nat := 0
  deriving DecidableEq, Repr

namespace MemoryDocument

/-- The store of one document, whatever its locator. -/
def store : DocumentStore MemoryDocument where
  read _ d := .ok { content := d.content, version := .ofContent d.content }
  write locator content version := fun d =>
    if Version.ofContent d.content = version then (.ok (), { content, writes := d.writes + 1 })
    else (.error (.storeConflict locator), d)

end MemoryDocument

end ListeningCharts
