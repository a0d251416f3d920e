import ListeningCharts.Text.Percent

/-! # Paths

A path is a list of segments. The segments `.` and `..` say where the others lead, and are gone once
the path is resolved.
-/

namespace ListeningCharts.Http.Path

/-- The number of dots in a segment of dots only, each written as it is or as `%2e`. -/
def dots? : Text → Option Nat
  | [] => some 0
  | '.' :: rest => (dots? rest).map (· + 1)
  | '%' :: '2' :: 'e' :: rest => (dots? rest).map (· + 1)
  | '%' :: '2' :: 'E' :: rest => (dots? rest).map (· + 1)
  | _ => none

/-- Whether the segment names a drive. -/
def isDrive : Text → Bool
  | [letter, sign] => letter.isAlpha && (sign == ':' || sign == '|')
  | _ => false

/-- The segments without the last one, which stands first here. A drive is not left. -/
def leave : List Text → List Text
  | [] => []
  | s :: kept => if isDrive s then s :: kept else kept

/-- A segment as it is kept: a drive at the start of the path of a file has a colon. -/
def settle (isFile : Bool) (kept : List Text) (s : Text) : Text :=
  if isFile && kept.isEmpty && isDrive s then s.take 1 ++ [':'] else s

/-- Resolves segments. `kept` holds what precedes, the last segment first. A dot segment at the end
leaves an empty one. -/
def resolve (isFile : Bool) (kept : List Text) : List Text → List Text
  | [] => kept.reverse
  | s :: rest =>
    if dots? s = some 1 then resolve isFile (if rest.isEmpty then [] :: kept else kept) rest
    else if dots? s = some 2 then
      resolve isFile (if rest.isEmpty then [] :: leave kept else leave kept) rest
    else resolve isFile (settle isFile kept s :: kept) rest

/-- Characters that are written as bytes, besides those that always are. -/
def encoded : Text := " \"#<>?`\x7b\x7d"

/-- The segments of a path without the slash at its start. -/
def segments (separates : Char → Bool) (t : Text) : List Text :=
  (Text.percentEncode encoded t).splitOnP separates

/-- A path with a slash before each segment. -/
def ofSegments (ss : List Text) : Text := ss.flatMap ('/' :: ·)

/-- A text without the separator at its start. -/
def dropRoot (separates : Char → Bool) : Text → Text
  | [] => []
  | c :: rest => if separates c then rest else c :: rest

/-- Reads a path that starts at the root, whose slash is perhaps missing. -/
def read (separates : Char → Bool) (t : Text) : Text :=
  ofSegments (resolve false [] (segments separates (dropRoot separates t)))

/-- The segments without empty ones at the start, but never none. -/
def dropEmpty (ss : List Text) : List Text :=
  match ss.dropWhile (·.isEmpty) with
  | [] => [[]]
  | ss => ss

end ListeningCharts.Http.Path
