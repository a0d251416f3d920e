import ListeningCharts.FileTree

/-! # Disk

A tree says which changes there is room for. The disk that holds it may still refuse one, and a write may
break off when the file has lost its old content and has only a part of the new one. So a change has a
result and leaves a tree, whether it succeeds or not.
-/

namespace ListeningCharts

/-- Why a write fails although there is room for it. -/
inductive WriteFault where
  /-- The file is not opened. -/
  | refused (cause : IoFault)
  /-- The file is opened, and has this many bytes of its new content when the write breaks off. -/
  | broken (written : Nat) (cause : IoFault)
  deriving DecidableEq, Repr

/-- A disk during one run: which changes fail on it although there is room for them. -/
structure Disk where
  writeFault? : FileTree → (path : Text) → (content : Bytes) → Option WriteFault
  renameFault? : FileTree → (source target : Text) → Option IoFault
  removeFault? : FileTree → (path : Text) → Option IoFault

namespace Disk

/-- A disk on which nothing fails. -/
def sound : Disk where
  writeFault? _ _ _ := none
  renameFault? _ _ _ := none
  removeFault? _ _ := none

/-- Writes a text to the file at the path. -/
def writeText (d : Disk) (path text : Text) (t : FileTree) : Except IoFault Unit × FileTree :=
  let content := Utf8.encode text
  match t.placeFor path with
  | .error fault => (.error fault, t)
  | .ok p =>
    match d.writeFault? t path content with
    | none => (.ok (), t.set p (.file content))
    | some (.refused cause) => (.error cause, t)
    | some (.broken written cause) => (.error cause, t.set p (.file (content.take written)))

/-- A change that is made as a whole, unless it is refused. -/
def attempt (t : FileTree) (change : Except IoFault FileTree) (fault? : Option IoFault) :
    Except IoFault Unit × FileTree :=
  match change, fault? with
  | .error fault, _ => (.error fault, t)
  | .ok _, some cause => (.error cause, t)
  | .ok changed, none => (.ok (), changed)

/-- Moves the file at one path to another. -/
def rename (d : Disk) (source target : Text) (t : FileTree) : Except IoFault Unit × FileTree :=
  attempt t (t.rename source target) (d.renameFault? t source target)

/-- Removes the file at the path. -/
def remove (d : Disk) (path : Text) (t : FileTree) : Except IoFault Unit × FileTree :=
  attempt t (t.remove path) (d.removeFault? t path)

end Disk

end ListeningCharts
