import ListeningCharts.Error
import ListeningCharts.Marker
import ListeningCharts.Region

/-! # Scan

The regions of a document. Lines are read in order; an end marker closes the region of its family
that has been open longest, so regions are closed in the order in which they were opened. A line of
content belongs to a region while that is the only one open. Markers of one family are content to
every other.
-/

namespace ListeningCharts

/-- A region that is not closed yet. -/
structure OpenRegion where
  startMarker : Text
  start : Nat
  config : RegionConfig
  bodyLines : List Text := []
  deriving DecidableEq, Repr

namespace OpenRegion

/-- The region with one more line in its body. -/
def push (o : OpenRegion) (line : Text) : OpenRegion :=
  { o with bodyLines := o.bodyLines ++ [line] }

/-- The region, closed by a line that ends at byte `stop`. -/
def close (o : OpenRegion) (family : Family) (endMarker : Text) (stop : Nat) : Region where
  family := family
  startMarker := o.startMarker
  endMarker := endMarker
  bodyLines := o.bodyLines
  fullText := Region.textOf o.startMarker o.bodyLines endMarker
  span := ⟨o.start, stop⟩
  config := o.config

end OpenRegion

/-- The regions that the remaining lines close, of those `pending` and those that the lines open.
The regions pending are in the order in which they were opened; `offset` is the byte at which the
remaining lines start. -/
def pairMarkers (family : Family) :
    (pending : List OpenRegion) → (offset : Nat) → List Text → Except Error (List Region)
  | [], _, [] => .ok []
  | pending, _, [] => .error (.startWithoutEnd (pending.map OpenRegion.startMarker))
  | pending, offset, line :: lines =>
    let next := offset + line.byteLength + 1
    match Marker.classify family line with
    | .error fault => .error (.malformedConfiguration line fault)
    | .ok (.opening config) =>
      pairMarkers family (pending ++ [{ startMarker := line, start := offset, config }]) next lines
    | .ok .closing =>
      match pending with
      | [] => .error (.endWithoutStart line)
      | oldest :: pending => do
        let regions ← pairMarkers family pending next lines
        return oldest.close family line (offset + line.byteLength) :: regions
    | .ok .content =>
      match pending with
      | [only] => pairMarkers family [only.push line] next lines
      | _ => pairMarkers family pending next lines

/-- The regions of a family in a document, in the order in which they are opened. -/
def scan (family : Family) (document : Text) : Except Error (List Region) :=
  pairMarkers family [] 0 document.lines

/-- The regions of every family in a document, family by family. -/
def scanAll (document : Text) : Except Error (List Region) := do
  return (← Family.all.mapM fun f => scan f document).flatten

end ListeningCharts
