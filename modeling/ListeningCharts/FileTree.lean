import ListeningCharts.Error
import ListeningCharts.Text.Utf8

/-! # File tree

Files and directories by their place, and the meaning of a path text in them: segments are walked one
by one, each from a directory that exists, so `a/../b` needs `a`, and a slash at the end needs a
directory in front of it. There are no links, so a file stands at one place only.
-/

namespace ListeningCharts

/-- A place in a tree: the names on the way to it. -/
abbrev Place := List Text

/-- What is found at a place. -/
inductive Entry where
  | file (content : Bytes)
  | directory
  deriving DecidableEq, Repr

/-- Files and directories. The tree itself is a directory; relative paths start at `current`. -/
structure FileTree where
  entries : List (Place × Entry) := []
  current : Place := []
  deriving DecidableEq, Repr

namespace FileTree

/-! ## Places -/

/-- What is found at a place. -/
def get? (t : FileTree) (p : Place) : Option Entry :=
  if p = [] then some .directory else t.entries.lookup p

/-- The tree with an entry put at a place. -/
def set (t : FileTree) (p : Place) (e : Entry) : FileTree :=
  { t with entries := (p, e) :: t.entries.filter fun x => x.1 != p }

/-- The tree without what is at a place. -/
def erase (t : FileTree) (p : Place) : FileTree :=
  { t with entries := t.entries.filter fun x => x.1 != p }

theorem lookup_filter_ne (l : List (Place × Entry)) (p q : Place) :
    (l.filter fun x => x.1 != p).lookup q = if q = p then none else l.lookup q := by
  induction l with
  | nil => simp
  | cons x l ih =>
    obtain ⟨k, v⟩ := x
    by_cases hkp : k = p
    · subst hkp
      by_cases hqk : q = k
      · simpa [hqk] using ih
      · have : (q == k) = false := by simpa using hqk
        simpa [List.lookup_cons, this, hqk] using ih
    · have hkp' : (k != p) = true := by simpa using hkp
      rw [List.filter_cons_of_pos (by simpa using hkp), List.lookup_cons, List.lookup_cons, ih]
      by_cases hqk : q = k
      · subst hqk; simp [hkp]
      · have : (q == k) = false := by simpa using hqk
        simp [this]

/-- Putting an entry at a place changes what is found there, and nothing else. -/
theorem get?_set (t : FileTree) (p q : Place) (e : Entry) (hp : p ≠ []) :
    (t.set p e).get? q = if q = p then some e else t.get? q := by
  unfold get? set
  by_cases hq : q = []
  · subst hq; simp [Ne.symm hp]
  · simp only [hq, if_false, List.lookup_cons, lookup_filter_ne]
    by_cases hqp : q = p
    · simp [hqp]
    · have : (q == p) = false := by simpa using hqp
      simp [this, hqp]

/-- Erasing a place empties it, and no other. -/
theorem get?_erase (t : FileTree) (p q : Place) (hp : p ≠ []) :
    (t.erase p).get? q = if q = p then none else t.get? q := by
  unfold get? erase
  by_cases hq : q = []
  · subst hq; simp [Ne.symm hp]
  · simp only [hq, if_false, lookup_filter_ne]

/-! ## Paths -/

/-- Follows the segments of a path from a place. -/
def walk (t : FileTree) : Place → List Text → Except IoFault Place
  | place, [] => .ok place
  | place, s :: segments =>
    match t.get? place with
    | none => .error .notFound
    | some (.file _) => .error .notDirectory
    | some .directory =>
      if s = [] ∨ s = ['.'] then t.walk place segments
      else if s = ['.', '.'] then t.walk place.dropLast segments
      else t.walk (place ++ [s]) segments

/-- The place that a path leads to; nothing need be there yet. -/
def locate (t : FileTree) (path : Text) : Except IoFault Place :=
  match path with
  | [] => .error .notFound
  | '/' :: rest => t.walk [] (rest.splitOn '/')
  | _ => t.walk t.current (path.splitOn '/')

/-- A path below another; an absolute path stands alone. -/
def join (base path : Text) : Text :=
  if path.head? = some '/' ∨ base = [] then path
  else if base.getLast? = some '/' then base ++ path
  else base ++ "/" ++ path

/-! ## Files -/

/-- Whether there is a file at the path. -/
def isFile (t : FileTree) (path : Text) : Bool :=
  match t.locate path with
  | .ok p => match t.get? p with
    | some (.file _) => true
    | _ => false
  | .error _ => false

/-- The text of the file at the path. -/
def readText (t : FileTree) (path : Text) : Except IoFault Text := do
  match t.get? (← t.locate path) with
  | none => .error .notFound
  | some .directory => .error .isDirectory
  | some (.file content) =>
    match Utf8.decode? content with
    | some text => .ok text
    | none => .error .invalidUtf8

/-- The place of a path at which a file can be written: there is one already, or nothing. -/
def placeFor (t : FileTree) (path : Text) : Except IoFault Place := do
  let p ← t.locate path
  match t.get? p with
  | some .directory => .error .isDirectory
  | _ => .ok p

/-- The tree with the file at one path moved to another, where no directory may be. -/
def rename (t : FileTree) (source target : Text) : Except IoFault FileTree := do
  let p ← t.locate source
  let q ← t.placeFor target
  match t.get? p with
  | none => .error .notFound
  | some .directory => .error .notDirectory
  | some (.file content) => .ok ((t.erase p).set q (.file content))

/-- The tree without the file at the path. -/
def remove (t : FileTree) (path : Text) : Except IoFault FileTree := do
  let p ← t.placeFor path
  match t.get? p with
  | none => .error .notFound
  | some _ => .ok (t.erase p)

/-- The tree with a directory at a place and at every place on the way to it. -/
def makeDirectories (t : FileTree) (p : Place) : FileTree :=
  ((List.range p.length).map fun n => p.take (n + 1)).foldl
    (fun t q => if (t.get? q).isSome then t else t.set q .directory) t

/-- The tree with a file at a place, its directories made where they are missing. -/
def put (t : FileTree) (p : Place) (content : Bytes) : FileTree :=
  (t.makeDirectories p.dropLast).set p (.file content)

end FileTree

end ListeningCharts
