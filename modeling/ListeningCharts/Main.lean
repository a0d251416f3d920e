import ListeningCharts.Cli.Run

/-! # Program

Reads the files that a run may look at or change, does the run as on a disk on which nothing fails, and
makes the changes. It opens no connection, so every request stays without an answer.
-/

namespace ListeningCharts.Program

/-- The place that a path leads to by its names alone. -/
def placeOf (current : Place) (path : Text) : Place :=
  let start := if path.head? = some '/' then [] else current
  (path.splitOn '/').foldl (fun place s =>
    if s = [] ∨ s = ['.'] then place
    else if s = ['.', '.'] then place.dropLast
    else place ++ [s]) start

/-- The tree with what is found on the disk at a place. -/
def readPlace (t : FileTree) (p : Place) : IO FileTree := do
  let path := (← IO.currentDir) / String.ofList (Cli.pathOf p)
  if ← path.isDir then return t.set p .directory
  else if ← path.pathExists then
    return t.set p (.file (← IO.FS.readBinFile path).toList)
  else return t

/-- The tree with what is found on the disk on the way to a path. -/
def readPath (t : FileTree) (path : Text) : IO FileTree :=
  let p := placeOf t.current path
  (List.range p.length).foldlM (fun t n => readPlace t (p.take (n + 1))) t

/-- Removes the files of a tree that are gone in another tree, and writes those of that tree that are new
or other ones. -/
def writeChanges (old new : FileTree) : IO Unit := do
  old.entries.forM fun (p, e) =>
    if e ≠ .directory ∧ new.get? p = none then IO.FS.removeFile (String.ofList (Cli.pathOf p))
    else pure ()
  new.entries.forM fun (p, e) =>
    match e with
    | .file content =>
      if old.get? p = some e then pure ()
      else IO.FS.writeBinFile (String.ofList (Cli.pathOf p)) ⟨content.toArray⟩
    | .directory => pure ()

/-- The environment of a run. -/
def readEnvironment : IO Cli.Environment := do
  let user ← IO.getEnv "LASTFM_USER"
  let apiKey ← IO.getEnv "LASTFM_API_KEY"
  let noColor ← IO.getEnv "NO_COLOR"
  return {
    user := user.map String.toList
    apiKey := apiKey.map String.toList
    noColor := noColor.isSome }

/-- The files that a run may look at: first the settings, then what they name. -/
def readFiles (words : List Text) (env : Cli.Environment) : IO FileTree := do
  let current := placeOf [] (← IO.currentDir).toString.toList
  let t ← readPath { current } (Cli.pathOf current)
  match Cli.Invocation.parse words env with
  | .error _ => return t
  | .ok i =>
    let t ← (i.files t).foldlM readPath t
    (i.files t).foldlM readPath t

end ListeningCharts.Program

open ListeningCharts in
def main (arguments : List String) : IO UInt32 := do
  let words := arguments.map String.toList
  let env ← Program.readEnvironment
  let t ← Program.readFiles words env
  let outcome := Cli.run Client.publicUrl .sound words env (t, { upcoming := [] })
  Program.writeChanges t outcome.world.1
  match outcome.result with
  | .ok printed =>
    IO.print (String.ofList printed.answer)
    IO.eprint (String.ofList printed.difference)
  | .error (.error e) =>
    IO.eprintln (String.ofList (e.code ++ "\n\n  " ++ e.message))
    if let some advice := e.help? then IO.eprintln (String.ofList ("  help: " ++ advice))
  | .error failure => IO.eprintln (String.ofList ((failure.line? outcome.colors).getD []))
  return UInt32.ofNat outcome.exitCode
