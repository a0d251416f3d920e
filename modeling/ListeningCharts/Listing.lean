import ListeningCharts.Family

/-! # Listings

The records that a listening service gives for a family.
-/

namespace ListeningCharts

/-- An artist with a link. -/
structure ArtistLink where
  name : Text
  url : Text
  deriving DecidableEq, Repr

/-- A track that was played lately. -/
structure RecentTrack where
  name : Text
  url : Text
  artist : Text
  /-- Seconds since 1970; none while the track is still playing. -/
  playedAt : Option Int
  deriving DecidableEq, Repr

/-- A track or an album with the number of its plays. -/
structure RankedWork where
  name : Text
  url : Text
  playcount : Nat
  artist : ArtistLink
  deriving DecidableEq, Repr

/-- An artist with the number of plays. -/
structure RankedArtist where
  name : Text
  url : Text
  playcount : Nat
  deriving DecidableEq, Repr

/-- The summary of an account. -/
structure AccountSummary where
  /-- Seconds since 1970. -/
  registered : Int
  playcount : Nat
  artistCount : Nat
  albumCount : Nat
  trackCount : Nat
  deriving DecidableEq, Repr

/-- The records for a family. -/
inductive Listing where
  | recent (tracks : List RecentTrack)
  | tracks (works : List RankedWork)
  | artists (artists : List RankedArtist)
  | albums (works : List RankedWork)
  | userInfo (summary : Option AccountSummary)
  deriving DecidableEq, Repr

namespace Listing

/-- The family whose records these are. -/
def family : Listing → Family
  | recent _ => .recent
  | tracks _ => .tracks
  | artists _ => .artists
  | albums _ => .albums
  | userInfo _ => .userInfo

/-- How many records there are. -/
def length : Listing → Nat
  | recent l => l.length
  | tracks l => l.length
  | artists l => l.length
  | albums l => l.length
  | userInfo s => if s.isSome then 1 else 0

/-- Whether there is no record. -/
def isEmpty (l : Listing) : Bool := l.length == 0

/-- The listing of a family without records. -/
def empty : Family → Listing
  | .recent => recent []
  | .tracks => tracks []
  | .artists => artists []
  | .albums => albums []
  | .userInfo => userInfo none

@[simp] theorem family_empty (f : Family) : (empty f).family = f := by cases f <;> rfl

@[simp] theorem isEmpty_empty (f : Family) : (empty f).isEmpty = true := by cases f <;> rfl

end Listing

end ListeningCharts
