import ListeningCharts.Date.Pattern
import ListeningCharts.Listing
import ListeningCharts.NumberFormat
import ListeningCharts.Region

/-! # Rendering

The lines of Markdown that a region shows: one per record, at most as many as the region asks for,
between its markers and below an optional title.
-/

namespace ListeningCharts

/-- How numbers and dates are written. -/
structure Formats where
  numbers : NumberFormat
  dates : DatePattern
  deriving DecidableEq, Repr

namespace Formats

def defaultLocale : Text := "en-US"
def defaultDatePattern : Text := "MM/dd/yyyy"

/-- The formats of a locale and a date pattern. -/
def ofLocale (locale datePattern : Text) : Except DatePatternFault Formats := do
  return { numbers := .ofLocale locale, dates := ← DatePattern.parse datePattern }

end Formats

/-- What a region shows when there is no record. -/
def emptyMessage : Text := "No listening data found for the selected time period."

/-- The logo in front of a title. -/
def logo : Text :=
  "<a href=\"https://last.fm\" target=\"_blank\"><img src=\"https://user-images.githubusercontent.com/" ++
  "17434202/215290617-e793598d-d7c9-428f-9975-156db1ba89cc.svg\" alt=\"Last.fm Logo\" width=\"18\" " ++
  "height=\"13\"/></a>"

namespace Render

/-- A link with a text. -/
def link (name url : Text) : Text := "[" ++ name ++ "](" ++ url ++ ")"

/-- The line of a ranked record; tracks and albums name their artist. -/
def rankedLine (numbers : NumberFormat) (playcount : Nat) (name url : Text)
    (artist : Option ArtistLink) : Text :=
  let suffix : Text :=
    match artist with
    | some a => " - " ++ link a.name a.url
    | none => []
  "> `" ++ numbers.format playcount ++ " ▶️` ∙ **" ++ link name url ++ "**" ++ suffix ++ "<br/>"

/-- The line of a track or an album. -/
def workLine (numbers : NumberFormat) (w : RankedWork) : Text :=
  rankedLine numbers w.playcount w.name w.url (some w.artist)

/-- The line of an artist. -/
def artistLine (numbers : NumberFormat) (a : RankedArtist) : Text :=
  rankedLine numbers a.playcount a.name a.url none

/-- The line of a track that was played lately. -/
def recentLine (bullet : Text) (t : RecentTrack) : Text :=
  "> " ++ bullet ++ " **" ++ link t.name t.url ++ "** - " ++ t.artist ++ "<br/>"

/-- The lines of the tracks played lately. The first one has a bullet of its own if there are more
tracks than rows. -/
def recentLines (rows : Nat) (tracks : List RecentTrack) : List Text :=
  match tracks.take rows with
  | [] => []
  | first :: rest =>
    recentLine (if rows < tracks.length then ['🎶'] else ['∙']) first :: rest.map (recentLine ['∙'])

/-- The value of a field of the account summary. -/
def summaryValue (formats : Formats) (s : AccountSummary) : DisplayField → Text
  | .registered => formats.dates.format s.registered
  | .playcount => formats.numbers.format s.playcount
  | .artistCount => formats.numbers.format s.artistCount
  | .albumCount => formats.numbers.format s.albumCount
  | .trackCount => formats.numbers.format s.trackCount

/-- The line of a field of the account summary. -/
def summaryLine (formats : Formats) (s : AccountSummary) (f : DisplayField) : Text :=
  "> **" ++ f.label ++ "**: " ++ summaryValue formats s f ++ "<br/>"

/-- The lines of a listing. -/
def lines (config : RegionConfig) (formats : Formats) : Listing → List Text
  | .tracks works => (works.take config.rows).map (workLine formats.numbers)
  | .albums works => (works.take config.rows).map (workLine formats.numbers)
  | .artists artists => (artists.take config.rows).map (artistLine formats.numbers)
  | .recent tracks => recentLines config.rows tracks
  | .userInfo none => []
  | .userInfo (some s) => config.display.map (summaryLine formats s)

/-- The body of a region. -/
def body (config : RegionConfig) (formats : Formats) (listing : Listing) : Text :=
  if listing.isEmpty then emptyMessage else Text.joinLines (lines config formats listing)

/-- The body between its markers, below a title and a blank line if the title is shown. -/
def wrap (startMarker endMarker title : Text) (showTitle : Bool) (body : Text) : Text :=
  if showTitle then
    startMarker ++ "\n" ++ logo ++ " **" ++ title ++ "**\n\n" ++ body ++ "\n" ++ endMarker
  else startMarker ++ "\n" ++ body ++ "\n" ++ endMarker

end Render

/-- What an update is made with, the records apart. -/
structure UpdateOptions where
  user : Text
  showTitle : Bool := true
  formats : Formats
  /-- Work out the new document without writing it. -/
  dryRun : Bool := false
  deriving DecidableEq, Repr

/-- The text that replaces a region: its markers with the rendered listing between them. -/
def Region.render (r : Region) (listing : Listing) (options : UpdateOptions) : Text :=
  Render.wrap r.startMarker r.endMarker (r.family.title r.config.period options.user)
    options.showTitle (Render.body r.config options.formats listing)

end ListeningCharts
