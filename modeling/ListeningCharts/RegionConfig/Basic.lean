import ListeningCharts.Text.Basic

/-! # Region configuration

What a region asks for: how many rows, over which period, and which fields of the account summary.
-/

namespace ListeningCharts

/-! ## Period -/

/-- The time over which plays are counted. -/
inductive Period where
  | week | month | quarter | halfYear | year | overall
  deriving DecidableEq, Repr

namespace Period

/-- Every period, from the shortest to the longest. -/
def all : List Period := [week, month, quarter, halfYear, year, overall]

/-- The name in a configuration and in a request. -/
def name : Period → Text
  | week => "7day"
  | month => "1month"
  | quarter => "3month"
  | halfYear => "6month"
  | year => "12month"
  | overall => "overall"

/-- The wording in a title. -/
def readable : Period → Text
  | week => "Past Week"
  | month => "Past Month"
  | quarter => "Past 3 Months"
  | halfYear => "Past 6 Months"
  | year => "Past Year"
  | overall => "All Time"

end Period

/-! ## Fields of the account summary -/

/-- A field of the account summary. -/
inductive DisplayField where
  | registered | playcount | artistCount | albumCount | trackCount
  deriving DecidableEq, Repr

namespace DisplayField

/-- Every field, in the order in which a summary shows them unless told otherwise. -/
def all : List DisplayField := [registered, playcount, artistCount, albumCount, trackCount]

/-- The name in a configuration. -/
def name : DisplayField → Text
  | registered => "registered"
  | playcount => "playcount"
  | artistCount => "artistCount"
  | albumCount => "albumCount"
  | trackCount => "trackCount"

/-- The wording in front of the value. -/
def label : DisplayField → Text
  | registered => "Registered"
  | playcount => "Playcount"
  | artistCount => "Artists"
  | albumCount => "Albums"
  | trackCount => "Tracks"

end DisplayField

/-! ## Configuration -/

/-- What a region asks for. -/
structure RegionConfig where
  /-- The greatest number of lines. -/
  rows : Nat := 8
  period : Period := .week
  display : List DisplayField := DisplayField.all
  deriving DecidableEq, Repr

namespace RegionConfig

/-- The least and the greatest number of rows that a region may ask for. -/
def minRows : Nat := 1
def maxRows : Nat := 50

end RegionConfig

end ListeningCharts
