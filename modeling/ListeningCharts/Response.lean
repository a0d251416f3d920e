import ListeningCharts.Json.Reader
import ListeningCharts.Listing

/-! # Responses

The JSON bodies with which the listening service answers, read as listings. The service writes most
numbers as strings, writes a list of one record as that record alone, and names the artist of a
played track under one of two keys.
-/

namespace ListeningCharts.Response

open Json

/-! ## Numbers -/

/-- A count of plays. -/
def count : Reader Nat := Reader.map Int.toNat (Reader.integerWithin .unsigned64)

/-- Seconds since 1970. -/
def seconds : Reader Int := Reader.integerWithin .signed64

/-! ## Records -/

/-- An artist; the link may be missing. -/
def artistLink : Reader ArtistLink :=
  Reader.map (fun (name, url, ()) => { name, url }) <| Reader.record "WireArtist" <|
    Fields.cons "name" .required Reader.text <|
    Fields.cons "url" (.default []) Reader.text <|
    Fields.nil

/-- A ranked track or album. -/
def rankedWork : Reader RankedWork :=
  Reader.map (fun (name, url, playcount, artist, ()) => { name, url, playcount, artist }) <|
    Reader.record "WireRankedWithArtist" <|
      Fields.cons "name" .required Reader.text <|
      Fields.cons "url" .required Reader.text <|
      Fields.cons "playcount" .required count <|
      Fields.cons "artist" .required artistLink <|
      Fields.nil

/-- A ranked artist. -/
def rankedArtist : Reader RankedArtist :=
  Reader.map (fun (name, url, playcount, ()) => { name, url, playcount }) <|
    Reader.record "WireRankedArtist" <|
      Fields.cons "name" .required Reader.text <|
      Fields.cons "url" .required Reader.text <|
      Fields.cons "playcount" .required count <|
      Fields.nil

/-- The name of the artist of a played track, from the first of two keys that has one. -/
def recentArtist : Reader Text :=
  Reader.map (fun (name, plain, ()) => (name.or plain).getD []) <|
    Reader.record "WireRecentArtist" <|
      Fields.cons "name" (.optional none) (Reader.optional Reader.text) <|
      Fields.cons "#text" (.optional none) (Reader.optional Reader.text) <|
      Fields.nil

/-- When a track was played. -/
def playDate : Reader Int :=
  Reader.map (fun (uts, ()) => uts) <| Reader.record "WireDate" <|
    Fields.cons "uts" .required seconds <|
    Fields.nil

/-- A track that was played lately; one that is still playing has no date. -/
def recentTrack : Reader RecentTrack :=
  Reader.map (fun (name, url, artist, playedAt, ()) => { name, url, artist, playedAt }) <|
    Reader.record "WireRecentTrack" <|
      Fields.cons "name" .required Reader.text <|
      Fields.cons "url" .required Reader.text <|
      Fields.cons "artist" .required recentArtist <|
      Fields.cons "date" (.optional none) (Reader.optional playDate) <|
      Fields.nil

/-- When an account was registered. -/
def registration : Reader Int :=
  Reader.map (fun (unixtime, ()) => unixtime) <| Reader.record "WireRegistered" <|
    Fields.cons "unixtime" .required seconds <|
    Fields.nil

/-- The summary of an account. -/
def accountSummary : Reader AccountSummary :=
  Reader.map (fun (registered, playcount, artistCount, albumCount, trackCount, ()) =>
      { registered, playcount, artistCount, albumCount, trackCount }) <|
    Reader.record "WireUser" <|
      Fields.cons "registered" .required registration <|
      Fields.cons "playcount" .required count <|
      Fields.cons "artist_count" .required count <|
      Fields.cons "album_count" .required count <|
      Fields.cons "track_count" .required count <|
      Fields.nil

/-! ## Bodies -/

/-- The value under the one key of an outer object. -/
def envelope {α : Type} (record key : Text) (r : Reader α) : Reader α :=
  Reader.map (fun (v, ()) => v) (Reader.record record (Fields.cons key .required r Fields.nil))

/-- A page with a list of records under one key; without the key there are none. -/
def page {α : Type} (record key : Text) (r : Reader α) : Reader (List α) :=
  Reader.map (fun (items, ()) => items) <|
    Reader.record record (Fields.cons key (.default []) (Reader.oneOrMany r) Fields.nil)

/-- The body that answers a request for a family. -/
def body : Family → Reader Listing
  | .recent =>
    Reader.map .recent <| envelope "RecentTracksResponse" "recenttracks" <|
      page "RecentTracksPage" "track" recentTrack
  | .tracks =>
    Reader.map .tracks <| envelope "TopTracksResponse" "toptracks" <|
      page "TopTracksPage" "track" rankedWork
  | .artists =>
    Reader.map .artists <| envelope "TopArtistsResponse" "topartists" <|
      page "TopArtistsPage" "artist" rankedArtist
  | .albums =>
    Reader.map .albums <| envelope "TopAlbumsResponse" "topalbums" <|
      page "TopAlbumsPage" "album" rankedWork
  | .userInfo =>
    Reader.map (fun s => .userInfo (some s)) <| envelope "UserInfoResponse" "user" accountSummary

/-- The listing in a body that answers a request for a family. -/
def parse (f : Family) (text : Text) : Except Fault Listing := decode (body f) text

/-! ## Failures -/

/-- An error of the service itself: its number and its message. -/
def failure : Reader (Int × Text) :=
  Reader.map (fun (code, message, ()) => (code, message)) <| Reader.record "ApiFailure" <|
    Fields.cons "error" .required Reader.int64 <|
    Fields.cons "message" (.default []) Reader.text <|
    Fields.nil

/-- The error that a body reports, if it reports one. -/
def failure? (text : Text) : Option (Int × Text) := (decode failure text).toOption

end ListeningCharts.Response
