import ListeningCharts.Family

/-! # Regions

A region is the part of a document between a start marker and the end marker that closes it.
-/

namespace ListeningCharts

/-- A range of bytes of a document, the end not included. -/
structure Span where
  start : Nat
  stop : Nat
  deriving DecidableEq, Repr

/-- A region of a document. -/
structure Region where
  family : Family
  /-- The start marker line. -/
  startMarker : Text
  /-- The end marker line. -/
  endMarker : Text
  bodyLines : List Text
  /-- The text that is replaced when the region is rendered anew. -/
  fullText : Text
  /-- From the first byte of the start marker to the last byte of the end marker. -/
  span : Span
  config : RegionConfig
  deriving DecidableEq, Repr

namespace Region

/-- The text of a region with these lines. -/
def textOf (startMarker : Text) (bodyLines : List Text) (endMarker : Text) : Text :=
  Text.joinLines (startMarker :: bodyLines ++ [endMarker])

/-- Whether the document holds the text of the region at its span. -/
def isInPlace (r : Region) (document : Text) : Bool :=
  document.slice? r.span.start r.span.stop == some r.fullText

/-- The line of the start marker, counted from one; the first line if the span does not start between
characters of the document. -/
def lineIn (r : Region) (document : Text) : Nat :=
  match document.splitAtByte r.span.start with
  | some (before, _) => before.count '\n' + 1
  | none => 1

end Region

end ListeningCharts
