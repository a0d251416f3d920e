import ListeningCharts.Render
import ListeningCharts.Scan
import ListeningCharts.Splice

/-! # Update

A document with every region rendered anew. The families are processed one after the other, each in
the document that the families before it left; the records are requested region by region in the
order in which the regions are opened; the first failure ends the update.

A source of records acts on a state, of which an update knows nothing: it may count requests, use up
replies, or change files.
-/

namespace ListeningCharts

/-- A computation that may fail and acts on a state. What it did to the state before it failed
stays done. -/
abbrev Run (σ : Type) := ExceptT Error (StateM σ)

/-- An outcome that leaves the state alone. -/
def Run.ofExcept {σ α : Type} (outcome : Except Error α) : Run σ α := ExceptT.mk (pure outcome)

/-- Whose records are wanted, and for which region. -/
structure Request where
  family : Family
  user : Text
  config : RegionConfig
  deriving DecidableEq, Repr

/-- A source of records. -/
abbrev Source (σ : Type) := Request → Run σ Listing

/-! ## Outcome -/

/-- What became of a region. -/
structure RegionUpdate where
  family : Family
  startMarker : Text
  /-- The line of the start marker when the region was processed. -/
  line : Nat
  /-- How many records there were. -/
  records : Nat
  /-- Whether the rendered text differs from the text that was there. -/
  changed : Bool
  deriving DecidableEq, Repr

/-- A document before and after every region was rendered anew. -/
structure DocumentUpdate where
  previous : Text
  updated : Text
  regions : List RegionUpdate
  deriving DecidableEq, Repr

namespace DocumentUpdate

/-- Whether the document differs from what it was. -/
def isChanged (u : DocumentUpdate) : Bool := u.previous != u.updated

/-- How many regions differ from what they were. -/
def changedCount (u : DocumentUpdate) : Nat := u.regions.countP RegionUpdate.changed

end DocumentUpdate

/-! ## Computation -/

/-- Requests the records of a region and renders it. -/
def renderRegion {σ : Type} (source : Source σ) (options : UpdateOptions) (working : Text)
    (r : Region) : Run σ (RegionUpdate × Region × Text) := do
  let listing ← source { family := r.family, user := options.user, config := r.config }
  let text := r.render listing options
  let update : RegionUpdate :=
    { family := r.family
      startMarker := r.startMarker
      line := r.lineIn working
      records := listing.length
      changed := text != r.fullText }
  return (update, r, text)

/-- Renders the regions of one family. -/
def updateFamily {σ : Type} (source : Source σ) (options : UpdateOptions) (working : Text)
    (family : Family) : Run σ (Text × List RegionUpdate) := do
  let regions ← Run.ofExcept (scan family working)
  let rendered ← regions.mapM (renderRegion source options working)
  return (spliceAll working (rendered.map Prod.snd), rendered.map Prod.fst)

/-- Renders the regions of several families, one family after the other. -/
def updateFamilies {σ : Type} (source : Source σ) (options : UpdateOptions) :
    List Family → Text → Run σ (Text × List RegionUpdate)
  | [], working => return (working, [])
  | family :: families, working => do
    let (working, updates) ← updateFamily source options working family
    let (updated, more) ← updateFamilies source options families working
    return (updated, updates ++ more)

/-- Renders every region of a document. A document that is malformed for any family is refused before
the first request. -/
def computeUpdate {σ : Type} (source : Source σ) (options : UpdateOptions) (document : Text) :
    Run σ DocumentUpdate := do
  let _ ← Run.ofExcept (scanAll document)
  let (updated, regions) ← updateFamilies source options Family.all document
  return { previous := document, updated, regions }

end ListeningCharts
