import ListeningCharts.RegionConfig.Blob

/-! # Markers

A line that starts with the start prefix of a family opens a region. It must go on with `-->`, or
with `:`, a configuration between braces, and `-->`; what follows the arrow is ignored. A line that
starts with the end prefix closes a region, whatever follows. Every other line is content.
-/

namespace ListeningCharts

/-- What a line is to the regions of one family. -/
inductive LineKind where
  | opening (config : RegionConfig)
  | closing
  | content
  deriving DecidableEq, Repr

namespace Marker

/-- The arrow that ends a marker. -/
def arrow : Text := "-->"

/-- The longest start of a text that ends in a closing brace with an arrow after it. -/
def longestBeforeArrow? : Text → Option Text
  | [] => none
  | c :: rest =>
    match longestBeforeArrow? rest with
    | some t => some (c :: t)
    | none => if c = '\x7d' ∧ arrow.isPrefixOf rest then some [c] else none

/-- The configuration blob of what follows the prefix of a start marker: none inside if there is no
blob, none at all if this is no start marker. The blob is the longest one possible. -/
def blob? (rest : Text) : Option (Option Text) :=
  match rest with
  | ':' :: '\x7b' :: inner => (longestBeforeArrow? inner).map fun t => some ('\x7b' :: t)
  | _ => if arrow.isPrefixOf rest then some none else none

/-- What a line is to the regions of a family. -/
def classify (f : Family) (line : Text) : Except ConfigFault LineKind :=
  match f.startPrefix.isPrefixOf? line with
  | some rest =>
    match blob? rest with
    | none => .error (.form f)
    | some blob => (RegionConfig.ofBlob blob).map .opening
  | none => .ok (if f.endPrefix.isPrefixOf line then .closing else .content)

end Marker

end ListeningCharts
