import ListeningCharts.Text.Basic

/-! # TOML values

Values, and tables under construction. A table remembers how it came to be, because that decides how
it may be extended: a table that a header opened takes keys only below that header, a table that
dotted keys made takes further dotted keys, a table made on the way to a header may still be opened
by a header of its own or be taken over by dotted keys, and an inline table is complete.
-/

namespace ListeningCharts.Toml

/-- How a table came to be. -/
inductive Origin where
  /-- Opened by a header. -/
  | header
  /-- Made on the way to a table that a header opened. -/
  | onTheWay
  /-- Made by a dotted key. -/
  | dotted
  | inline
  deriving DecidableEq, Repr

/-- A value. Numbers and dates are only known to be well formed. -/
inductive Value where
  | string (t : Text)
  | boolean (b : Bool)
  | number
  | date
  | array (items : List Value)
  | table (origin : Origin) (entries : List (Text × Value))
  /-- The tables that headers in double brackets opened under one key, the latest one first. -/
  | tables (latestFirst : List (List (Text × Value)))

/-- The keys of a table with their values, in the order in which they were given. -/
abbrev Entries := List (Text × Value)

namespace Entries

/-- The entries with the value of a key replaced, or the key added at the end. -/
def put (key : Text) (v : Value) : Entries → Entries
  | [] => [(key, v)]
  | (k, w) :: rest => if k = key then (k, v) :: rest else (k, w) :: put key v rest

/-- What a table on a path is after the path was followed; none if it may not be passed. Nothing passes
through an inline table, and no dotted key through a table that a header opened; one that was made on
the way to a header is taken over by the dotted keys. -/
def passed? (byDottedKey : Bool) : Origin → Option Origin
  | .header => if byDottedKey then none else some .header
  | .onTheWay => some (if byDottedKey then .dotted else .onTheWay)
  | .dotted => some .dotted
  | .inline => none

/-- Changes the table at the end of a path, making the tables that are missing on the way. Of the tables
that headers in double brackets opened, a path leads to the latest. -/
def changeAt (byDottedKey : Bool) (f : Origin → Entries → Option Entries) :
    (path : List Text) → Origin → Entries → Option Entries
  | [], origin, entries => f origin entries
  | key :: path, _, entries =>
    match entries.lookup key with
    | none =>
      let origin := if byDottedKey then .dotted else .onTheWay
      (changeAt byDottedKey f path origin []).map fun e => entries ++ [(key, .table origin e)]
    | some (.table origin e) => do
      let origin ← passed? byDottedKey origin
      let e ← changeAt byDottedKey f path origin e
      return put key (.table origin e) entries
    | some (.tables (latest :: earlier)) => do
      let e ← changeAt byDottedKey f path .header latest
      return put key (.tables (e :: earlier)) entries
    | some _ => none

/-- Adds a key, given as a path, with its value. A key may be given once, and the table at the end of its
path must belong to dotted keys. -/
def addKey (path : List Text) (key : Text) (v : Value) (origin : Origin) (entries : Entries) :
    Option Entries :=
  changeAt true
    (fun origin e =>
      if (!path.isEmpty && origin != .dotted) || (e.lookup key).isSome then none
      else some (e ++ [(key, v)]))
    path origin entries

/-- Opens the table of a header. -/
def openTable (path : List Text) (key : Text) (entries : Entries) : Option Entries :=
  changeAt false
    (fun _ e =>
      match e.lookup key with
      | none => some (e ++ [(key, .table .header [])])
      | some (.table .onTheWay inner) => some (put key (.table .header inner) e)
      | some _ => none)
    path .header entries

/-- Opens one more table of a header in double brackets. -/
def openTables (path : List Text) (key : Text) (entries : Entries) : Option Entries :=
  changeAt false
    (fun _ e =>
      match e.lookup key with
      | none => some (e ++ [(key, .tables [[]])])
      | some (.tables latestFirst) => some (put key (.tables ([] :: latestFirst)) e)
      | some _ => none)
    path .header entries

end Entries

end ListeningCharts.Toml
