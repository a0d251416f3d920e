import ListeningCharts.Region
import ListeningCharts.Text.Search

/-! # Splicing

A region's text in a document is replaced where its span says it is, if the document holds it there,
and otherwise where it first occurs.
-/

namespace ListeningCharts

namespace Region

/-- The text before and after the region's text, which the document holds at its span. -/
def surroundings? (r : Region) (document : Text) : Option (Text × Text) :=
  if r.isInPlace document then do
    let (before, _) ← document.splitAtByte r.span.start
    let (_, after) ← document.splitAtByte r.span.stop
    return (before, after)
  else none

/-- The document with the region's text replaced; unchanged if it does not hold that text. -/
def splice (r : Region) (document replacement : Text) : Text :=
  match r.surroundings? document with
  | some (before, after) => before ++ replacement ++ after
  | none => document.replaceFirst r.fullText replacement

end Region

/-! ## Many regions -/

/-- Puts a region in front of the first one that does not start after it. -/
def insertLatestFirst {α : Type} (entry : Region × α) : List (Region × α) → List (Region × α)
  | [] => [entry]
  | other :: rest =>
    if other.1.span.start ≤ entry.1.span.start then entry :: other :: rest
    else other :: insertLatestFirst entry rest

/-- The regions by descending start; regions that start at the same byte stay in their order. -/
def latestFirst {α : Type} (entries : List (Region × α)) : List (Region × α) :=
  entries.foldr insertLatestFirst []

/-- The document with regions replaced one after the other, from the last one to the first, so that a
replacement does not move the spans that are still to be replaced. -/
def spliceAll (document : Text) (replacements : List (Region × Text)) : Text :=
  (latestFirst replacements).foldl (fun working (r, text) => r.splice working text) document

end ListeningCharts
