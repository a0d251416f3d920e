import ListeningCharts.Disk
import ListeningCharts.Store.Basic

/-! # File store

Documents as files below a root. A document is written to a file beside it first, which then takes
its place.
-/

namespace ListeningCharts

/-- The documents below a root path, on a disk. -/
structure FileStore where
  root : Text
  disk : Disk := .sound

namespace FileStore

/-- The path of a document. -/
def resolve (s : FileStore) (locator : Text) : Text := FileTree.join s.root locator

/-- Removes empty segments and dots from the end of a list of segments. -/
def trimSegments (segments : List Text) : List Text :=
  (segments.reverse.dropWhile fun s => s == [] || s == ['.']).reverse

/-- The directory part of a path: all in front of the last segment, without slashes and dots at its
end. -/
def parent (path : Text) : Text :=
  let front := trimSegments (path.splitOn '/').dropLast
  if front.isEmpty && path.head? == some '/' then ['/'] else ['/'].intercalate front

/-- The last segment of a path. -/
def fileName (path : Text) : Text := (path.splitOn '/').getLastD []

/-- The path of the file that a document is written to first. -/
def temporary (path : Text) : Text :=
  FileTree.join (parent path) (fileName path ++ ".lastmark.tmp")

/-- The text of the file of a document. -/
def readFile (s : FileStore) (locator : Text) (t : FileTree) : Except Error Text :=
  (t.readText (s.resolve locator)).mapError fun f => .store (.unreadable (s.resolve locator) f)

/-- Replaces the file of a document by way of the file beside it. That one is removed if it cannot take
the place of the document, whether this succeeds or not. -/
def replaceFile (s : FileStore) (locator content : Text) : Run FileTree Unit := fun t =>
  let path := s.resolve locator
  match s.disk.writeText (temporary path) content t with
  | (.error fault, t) => (.error (.store (.unwritable (temporary path) fault)), t)
  | (.ok (), t) =>
    match s.disk.rename (temporary path) path t with
    | (.ok (), t) => (.ok (), t)
    | (.error fault, t) =>
      (.error (.store (.unreplaced path fault)), (s.disk.remove (temporary path) t).2)

/-- The store of the documents below the root. -/
def store (s : FileStore) : DocumentStore FileTree where
  read locator t := do
    let content ← s.readFile locator t
    return { content, version := .ofContent content }
  write locator content version := fun t =>
    match s.readFile locator t with
    | .error e => (.error e, t)
    | .ok current =>
      if Version.ofContent current = version then s.replaceFile locator content t
      else (.error (.storeConflict locator), t)

end FileStore

end ListeningCharts
