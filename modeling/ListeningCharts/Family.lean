import ListeningCharts.RegionConfig.Basic

/-! # Families

A family is a kind of chart. It has marker comments of its own and a request that feeds it.
-/

namespace ListeningCharts

/-- A kind of chart. -/
inductive Family where
  | tracks | artists | albums | recent | userInfo
  deriving DecidableEq, Repr

namespace Family

/-- Every family, in the order in which a document is processed. -/
def all : List Family := [tracks, artists, albums, recent, userInfo]

/-- The name inside the marker comments. -/
def markerName : Family → Text
  | tracks => "LASTFM_TRACKS"
  | artists => "LASTFM_ARTISTS"
  | albums => "LASTFM_ALBUMS"
  | recent => "LASTFM_RECENT"
  | userInfo => "LASTFM_USER_INFO"

/-- The family with a marker name. -/
def ofMarkerName? (name : Text) : Option Family := all.find? fun f => f.markerName == name

/-- How a line starts that opens a region. -/
def startPrefix (f : Family) : Text := "<!--START_" ++ f.markerName

/-- How a line starts that closes a region. -/
def endPrefix (f : Family) : Text := "<!--END_" ++ f.markerName

/-- The family in words. -/
def readable : Family → Text
  | tracks => "tracks"
  | artists => "artists"
  | albums => "albums"
  | recent => "recent"
  | userInfo => "user info"

/-- The name of the request that feeds the family. -/
def requestName : Family → Text
  | tracks => "TopTracks"
  | artists => "TopArtists"
  | albums => "TopAlbums"
  | recent => "RecentTracks"
  | userInfo => "UserInfo"

/-- The title above a region. -/
def title (f : Family) (period : Period) (user : Text) : Text :=
  match f with
  | tracks => "Top Tracks - " ++ period.readable
  | artists => "Top Artists - " ++ period.readable
  | albums => "Top Albums - " ++ period.readable
  | recent => "Recent Tracks"
  | userInfo => "[User Info - " ++ user ++ "](https://www.last.fm/user/" ++ user ++ ")"

end Family

end ListeningCharts
