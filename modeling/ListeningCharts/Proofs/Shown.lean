import ListeningCharts.Proofs.Markers
import ListeningCharts.Proofs.Pairing
import ListeningCharts.Update

/-! # What a region shows

    A rendered region is its two markers with lines between them (`Region.render_eq`). These lines
    come from the records, so it depends on the source whether one of them reads like a marker.

    * **Marker-free** replies: no line between the markers starts like a marker of any family. Such
      lines are content to every scan.
-/

namespace ListeningCharts

namespace Region

/-- The text between the markers of a rendered region. -/
def inner (r : Region) (listing : Listing) (options : UpdateOptions) : Text :=
  let body := Render.body r.config options.formats listing
  if options.showTitle then
    logo ++ " **" ++ r.family.title r.config.period options.user ++ "**\n\n" ++ body
  else body

/-- The lines between the markers of a rendered region. -/
def shown (r : Region) (listing : Listing) (options : UpdateOptions) : List Text :=
  (r.inner listing options).lines

/-- No line between the markers of a rendered region starts like a marker. -/
def MarkerFree (r : Region) (listing : Listing) (options : UpdateOptions) : Prop :=
  ∀ line ∈ r.shown listing options, ∀ f : Family,
    ¬ f.startPrefix <+: line ∧ ¬ f.endPrefix <+: line

/-- **A rendered region is made of lines**: its markers, and what it shows between them. -/
theorem render_eq (r : Region) (listing : Listing) (options : UpdateOptions) :
    r.render listing options = textOf r.startMarker (r.shown listing options) r.endMarker := by
  have htext : textOf r.startMarker (r.shown listing options) r.endMarker =
      r.startMarker ++ '\n' :: (r.inner listing options ++ '\n' :: r.endMarker) := by
    have hone : Text.joinLines (r.shown listing options) = r.inner listing options :=
      Text.joinLines_lines _
    have hne : r.shown listing options ≠ [] := Text.lines_ne_nil _
    have hmid := Text.joinLines_append_append [r.startMarker] hne [r.endMarker]
    rw [hone] at hmid
    simpa [textOf] using hmid
  rw [htext, Region.render, Render.wrap, inner]
  split <;> simp

theorem MarkerFree.isPlain {r : Region} {listing : Listing} {options : UpdateOptions}
    (h : r.MarkerFree listing options) : ∀ line ∈ r.shown listing options, IsPlain line :=
  fun line hline => ⟨fun f => Family.role_eq_content_iff.2 (h line hline f),
    Text.lineFeed_not_mem_of_mem_lines hline⟩

/-- The request for the records of a region. -/
def request (r : Region) (options : UpdateOptions) : Request :=
  { family := r.family, user := options.user, config := r.config }

end Region

variable {σ : Type}

/-- Requests the records of a region. -/
def fetch (source : Source σ) (options : UpdateOptions) (r : Region) : Run σ Listing :=
  source (r.request options)

/-- Whatever a source replies to a request, no line between the markers of the region starts like a
    marker. -/
def Source.MarkerFree (source : Source σ) (options : UpdateOptions) : Prop :=
  ∀ (r : Region) (s : σ) (listing : Listing) (s' : σ),
    fetch source options r s = (.ok listing, s') → r.MarkerFree listing options

end ListeningCharts
