import ListeningCharts.Client
import ListeningCharts.Disk
import ListeningCharts.Source.Scripted

/-! # Samples

Documents and records to try an update with, and a source that gives them.
-/

namespace ListeningCharts.Sample

/-! ## Documents -/

/-- A document with one empty region. -/
def albumDocument : Text := "<!--START_LASTFM_ALBUMS-->\n<!--END_LASTFM_ALBUMS-->"

/-- A document with one empty region of tracks. -/
def trackDocument : Text := "<!--START_LASTFM_TRACKS-->\n<!--END_LASTFM_TRACKS-->"

/-- A document with regions of three families. -/
def profileDocument : Text := Text.joinLines [
  "# Hi there",
  "",
  "## Listening",
  "",
  "<!--START_LASTFM_TRACKS:\x7b\"rows\": 2\x7d-->",
  "stale tracks",
  "<!--END_LASTFM_TRACKS-->",
  "",
  "Some text between the charts.",
  "",
  "<!--START_LASTFM_RECENT:\x7b\"rows\": 3\x7d-->",
  "<!--END_LASTFM_RECENT-->",
  "",
  "<!--START_LASTFM_USER_INFO:\x7b\"display\": [\"playcount\", \"registered\"]\x7d-->",
  "<!--END_LASTFM_USER_INFO-->",
  "",
  "Footer.",
  ""]

/-- A document with a region inside a region of another family. -/
def nestedDocument : Text := Text.joinLines [
  "# Charts",
  "<!--START_LASTFM_ARTISTS-->",
  "<!--START_LASTFM_TRACKS-->",
  "stale tracks",
  "<!--END_LASTFM_TRACKS-->",
  "<!--END_LASTFM_ARTISTS-->",
  "Footer."]

/-- A document whose two regions cross. -/
def crossedDocument : Text := Text.joinLines [
  "<!--START_LASTFM_TRACKS-->",
  "<!--START_LASTFM_ARTISTS-->",
  "<!--END_LASTFM_TRACKS-->",
  "<!--END_LASTFM_ARTISTS-->"]

/-- A document with a line between two pairs of regions that cross. -/
def crossedTwiceDocument : Text := Text.joinLines [
  "<!--START_LASTFM_ARTISTS-->",
  "<!--START_LASTFM_TRACKS-->",
  "<!--END_LASTFM_ARTISTS-->",
  "<!--END_LASTFM_TRACKS-->",
  "Footer.",
  "<!--START_LASTFM_TRACKS-->",
  "<!--START_LASTFM_ARTISTS-->",
  "<!--END_LASTFM_TRACKS-->",
  "<!--END_LASTFM_ARTISTS-->"]

/-- A document with two regions of one family that overlap and have the same markers. -/
def overlappingDocument : Text := Text.joinLines [
  "Hi 🎶",
  "<!--START_LASTFM_TRACKS-->",
  "stale tracks",
  "<!--START_LASTFM_TRACKS-->",
  "stale tracks",
  "<!--END_LASTFM_TRACKS-->",
  "",
  "inner",
  "<!--END_LASTFM_TRACKS-->",
  "Footer."]

/-- A document with two regions of one family, neither of whose texts it holds in one piece. -/
def interleavedDocument : Text := Text.joinLines [
  "<!--START_LASTFM_TRACKS-->outer",
  "<!--START_LASTFM_TRACKS-->inner",
  "<!--END_LASTFM_TRACKS-->outer",
  "<!--END_LASTFM_TRACKS-->inner"]

/-- A directory with one document in it. -/
def documentTree (content : Text) : FileTree where
  entries := [
    (["docs".toList], .directory),
    (["docs".toList, "README.md".toList], .file (Utf8.encode content))]

/-! ## Records -/

def radiohead : ArtistLink := { name := "Radiohead", url := "https://x/r" }

def okComputer : RankedWork :=
  { name := "OK Computer", url := "https://x/a", playcount := 89, artist := radiohead }

/-- A track by name and number of plays. -/
def track (name : Text) (playcount : Nat) : RankedWork :=
  { name, url := "https://x/t/" ++ name, playcount, artist := radiohead }

/-- An artist by name and number of plays. -/
def artist (name : Text) (playcount : Nat) : RankedArtist :=
  { name, url := "https://x/" ++ name, playcount }

/-- A track whose name has a second line, which starts like an end marker. -/
def brokenTrack : RankedWork :=
  { name := "Airbag\n<!--END_LASTFM_TRACKS-->", url := "https://x/t", playcount := 1,
    artist := radiohead }

/-- The body in which the service sends that track. -/
def brokenBody : Text :=
  "\x7b\"toptracks\": \x7b\"track\": [\x7b\"name\": \"Airbag\\n<!--END_LASTFM_TRACKS-->\", " ++
  "\"url\": \"https://x/t\", \"playcount\": \"1\", " ++
  "\"artist\": \x7b\"name\": \"Radiohead\", \"url\": \"https://x/r\"\x7d\x7d]\x7d\x7d"

/-- A body with one track that stands alone, with unknown keys, blanks and a zero around its plays, and
no link to its artist. -/
def aloneBody : Text :=
  "\x7b\"toptracks\": \x7b\"@attr\": \x7b\"page\": \"1\"\x7d, \"track\": \x7b\"name\": \"Airbag\", " ++
  "\"url\": \"https://x/t\", \"playcount\": \" 05 \", " ++
  "\"artist\": \x7b\"mbid\": null, \"name\": \"Radiohead\"\x7d\x7d\x7d\x7d"

/-- A body with two artists, the second of them without plays. -/
def lackingBody : Text :=
  "\x7b\"topartists\": \x7b\"artist\": [" ++
  "\x7b\"name\": \"Radiohead\", \"url\": \"https://x/r\", \"playcount\": 7\x7d, " ++
  "\x7b\"name\": \"Portishead\", \"url\": \"https://x/p\"\x7d]\x7d\x7d"

/-- A body with a list that is a track, field by field. -/
def fieldsBody : Text :=
  "\x7b\"toptracks\": \x7b\"track\": [\"Airbag\", \"https://x/a\", 5, " ++
  "\x7b\"name\": \"Radiohead\"\x7d]\x7d\x7d"

/-- A number of tracks played lately, one a minute. -/
def recentTracks (count : Nat) : List RecentTrack :=
  (List.range count).map fun i =>
    { name := "Track " ++ Text.ofNat (i + 1)
      url := "https://x/recent/" ++ Text.ofNat (i + 1)
      artist := "Radiohead"
      playedAt := some (1700000000 - (i + 1) * 60) }

def account : AccountSummary :=
  { registered := 1037793040, playcount := 123456, artistCount := 1234, albumCount := 567,
    trackCount := 8910 }

/-! ## Options -/

/-- The formats of the default locale and the default date pattern. -/
def formats : Formats where
  numbers := .ofLocale Formats.defaultLocale
  dates := {
    source := Formats.defaultDatePattern
    units := [.field .month2, .literal '/', .field .day2, .literal '/', .field .year] }

/-- Regions without titles. -/
def options : UpdateOptions := { user := "rj", showTitle := false, formats }

/-! ## Source -/

/-- What the service gives for the families of the profile document; no records for the others. -/
def profile : Family → Listing
  | .tracks => .tracks [track "Airbag" 1234, track "Lucky" 12, track "Karma Police" 3]
  | .recent => .recent (recentTracks 4)
  | .userInfo => .userInfo (some account)
  | f => .empty f

/-- A disk on which no file can be moved. -/
def busyDisk : Disk :=
  { Disk.sound with
    renameFault? := fun _ _ _ => some (.other "Device or resource busy (os error 16)") }

/-- A disk with room for four more bytes. -/
def fullDisk : Disk :=
  { Disk.sound with
    writeFault? := fun _ _ content =>
      if content.length ≤ 4 then none
      else some (.broken 4 (.other "No space left on device (os error 28)")) }

/-- A server that replies once, that there are no albums. -/
def albumServer : Server where
  upcoming := [.reply 200 (Utf8.encode "\x7b\"topalbums\": \x7b\x7d\x7d") 0]

/-- A server that sends the client on to another address, and replies there that there are no albums. -/
def movedServer : Server where
  upcoming := [.reply 302 [] 0 (some "/elsewhere"),
    .reply 200 (Utf8.encode "\x7b\"topalbums\": \x7b\x7d\x7d") 0]

/-- A source that always gives the same records for a family, without a script. -/
def steady {σ : Type} (listings : Family → Listing) : Source σ := fun r s =>
  (.ok (listings r.family), s)

/-- A source during whose replies a store becomes another one. -/
def meddling {τ σ : Type} (listings : Family → Listing) (store : τ) : Source (τ × σ) :=
  fun r (_, s) => (.ok (listings r.family), (store, s))

/-- The failure of a service that does not serve a family. -/
def unavailable (f : Family) : Error := .dataSource (.unavailable (f.requestName ++ " unavailable"))

/-- A source that does not serve any family. -/
def down {σ : Type} : Source σ := fun r s => (.error (unavailable r.family), s)

/-- A source that always gives the same records for a family, but does not serve one of them. -/
def steadyBut {σ : Type} (failing : Family) (listings : Family → Listing) : Source σ := fun r s =>
  if r.family = failing then (.error (unavailable r.family), s) else steady listings r s

/-- A script that always gives the same records for a family, and fails for one family if told to. -/
def script {τ : Type} (listings : Family → Listing) (failing : Option Family) : Script τ where
  replies f :=
    [{ outcome := if failing = some f then .error (unavailable f) else .ok (listings f) }]

end ListeningCharts.Sample
