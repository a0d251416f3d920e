import ListeningCharts.Json.Fault
import ListeningCharts.Text.Blank

/-! # JSON readers

A reader takes a typed value out of a tree, or says what is wrong with it. It looks at a tree in the
order in which the text was written, so of several faults the first one in the text is reported.

A record is read from an object or from a list: `Fields` names the fields of a record, each with its
reader and with what stands in for it when it is absent, and `record` reads them.
-/

namespace ListeningCharts.Json

/-- Reads a value from a tree, given how many lists and objects may still be entered. -/
abbrev Reader (α : Type) := (room : Nat) → Tree → Except Fault α

/-- How many lists and objects may be nested. -/
def maxDepth : Nat := 127

/-- An optional fault as an outcome. -/
def raise : Option Fault → Except Fault Unit
  | none => .ok ()
  | some fault => .error fault

/-- The room left inside a list or an object. -/
def enter : Nat → Except Fault Nat
  | 0 => .error .tooDeep
  | room + 1 => .ok room

/-! ## Values that are not wanted -/

mutual

/-- Passes over a value, of which only the grammar is looked at. -/
def skip : Tree → Except Fault Unit
  | .missing fault => .error fault.skipped
  | .string s => raise s.ending.fault?
  | .list items ending => do
    skipItems items
    raise ending.skipped
  | .object members ending => do
    skipMembers members
    raise ending.skipped
  | .keyless => .error .keyNotString
  | .null | .boolean _ | .number _ => .ok ()

/-- Passes over the elements of a list. -/
def skipItems : List Tree → Except Fault Unit
  | [] => .ok ()
  | item :: items => do
    skip item
    skipItems items

/-- Passes over the members of an object. -/
def skipMembers : List (StringToken × Tree) → Except Fault Unit
  | [] => .ok ()
  | (key, value) :: members => do
    raise key.ending.fault?
    skip value
    skipMembers members

end

mutual

/-- Checks that a value can be taken in whole: the depth, the range of numbers, the surrogates. -/
def checkWhole : Reader Unit
  | _, .missing fault => .error fault.wanted
  | _, .number n => if n.value?.isSome then .ok () else .error .numberOutOfRange
  | _, .string s => s.text.map fun _ => ()
  | room, .list items ending => do
    let room ← enter room
    checkItems room items
    raise ending.wanted
  | room, .object members ending => do
    let room ← enter room
    checkMembers room members
    raise ending.wanted
  | room, .keyless => do
    let _ ← enter room
    .error .keyNotString
  | _, .null | _, .boolean _ => .ok ()

/-- Checks the elements of a list. -/
def checkItems (room : Nat) : List Tree → Except Fault Unit
  | [] => .ok ()
  | item :: items => do
    checkWhole room item
    checkItems room items

/-- Checks the members of an object. -/
def checkMembers (room : Nat) : List (StringToken × Tree) → Except Fault Unit
  | [] => .ok ()
  | (key, value) :: members => do
    let _ ← key.text
    checkWhole room value
    checkMembers room members

end

/-- The fault of a value that is not what was wanted. -/
def mismatch {α : Type} (wanted : Wanted) : Tree → Except Fault α
  | .missing fault => .error fault.wanted
  | .null => .error (.wrongType .null wanted)
  | .boolean b => .error (.wrongType (.boolean b) wanted)
  | .number n => match n.value? with
    | some v => .error (.wrongType (.number v) wanted)
    | none => .error .numberOutOfRange
  | .string s => s.text.bind fun t => .error (.wrongType (.string t) wanted)
  | .list _ _ => .error (.wrongType .sequence wanted)
  | .object _ _ | .keyless => .error (.wrongType .map wanted)

namespace Reader

/-! ## Single values -/

/-- A reader whose result is passed through a function. -/
def map {α β : Type} (f : α → β) (r : Reader α) : Reader β := fun room t => (r room t).map f

/-- A whole number of 64 bits with a sign. -/
def int64 : Reader Int := fun _ t =>
  match t with
  | .number n => match n.value? with
    | some (.integer i) =>
      if IntRange.signed64.contains i then .ok i else .error (.wrongValue i .integer)
    | _ => mismatch .integer t
  | _ => mismatch .integer t

/-- A text. -/
def text : Reader Text := fun _ t =>
  match t with
  | .string s => s.text
  | _ => mismatch .string t

/-- Nothing but `null`. -/
def unit : Reader Unit := fun _ t =>
  match t with
  | .null => .ok ()
  | _ => mismatch .unit t

/-- A value that may be `null`. -/
def optional {α : Type} (r : Reader α) : Reader (Option α) := fun room t =>
  match t with
  | .null => .ok none
  | _ => (r room t).map some

/-- A list of values of one kind. -/
def list {α : Type} (r : Reader α) : Reader (List α) := fun room t =>
  match t with
  | .list items ending => do
    let room ← enter room
    let values ← items.mapM (r room)
    raise ending.wanted
    return values
  | _ => mismatch .sequence t

/-- One of a list of named values. -/
def variant {α : Type} (variants : List (Text × α)) (name : Text) : Except Fault α :=
  match variants.lookup name with
  | some v => .ok v
  | none => .error (.unknownVariant name (variants.map Prod.fst))

/-- One of a list of named values: the name, or an object with the name as its one key and `null`
under it. -/
def choice {α : Type} (variants : List (Text × α)) : Reader α := fun room t =>
  match t with
  | .string s => s.text.bind (variant variants)
  | .object members ending => do
    let _ ← enter room
    match members with
    | [] => .error (if ending = .endOfInput then .endInObject else .noValue)
    | (key, value) :: more =>
      let v ← key.text.bind (variant variants)
      unit room value
      if more.isEmpty then
        match ending with
        | .closed => .ok v
        | .endOfInput => .error .endInObject
        | _ => .error .noValue
      else .error .noValue
  | .keyless => do
    let _ ← enter room
    .error .keyNotString
  | .missing fault => .error fault.wantedChoice
  | _ => .error .noValue

/-- The first of several readings that succeeds. The value is taken in whole before the first one is
tried, and the faults of the readings themselves are not reported. -/
def firstOf {α : Type} (name : Text) (readings : List (Reader α)) : Reader α := fun room t => do
  checkWhole room t
  match readings.findSome? fun r => (r room t).toOption with
  | some v => .ok v
  | none => .error (.noAlternative name)

/-- A list of values of one kind, or one such value that stands alone. -/
def oneOrMany {α : Type} (r : Reader α) : Reader (List α) :=
  firstOf "OneOrMany" [list r, map (fun v => [v]) r]

/-- A whole number or a text. -/
def integerOrText : Reader (Int ⊕ Text) :=
  firstOf "Raw" [
    fun _ t => match t with
      | .number n => match n.value? with
        | some (.integer i) => .ok (.inl i)
        | _ => mismatch .integer t
      | _ => mismatch .integer t,
    map .inr text]

/-- A whole number within the bounds of a type, written as a number or as a text that holds it,
blanks aside. -/
def integerWithin (range : IntRange) : Reader Int := fun room t => do
  match ← integerOrText room t with
  | .inl i => if range.contains i then .ok i else .error .numberOutOfRange
  | .inr s => match s.trim.integer? range with
    | some i => .ok i
    | none => .error (.notNumber s)

end Reader

/-! ## Records -/

/-- What stands in for a field that is absent. `optional` also stands in where the record is an
object; a record that is a list must spell the field out. -/
inductive Absence (α : Type) where
  | required
  | optional (v : α)
  | default (v : α)

/-- The fields of a record in order, with the type of their values together and the type of the
places that hold the values found so far. -/
inductive Fields : (values slots : Type) → Type 1 where
  | nil : Fields Unit Unit
  | cons {α values slots : Type} (key : Text) (absence : Absence α) (reader : Reader α)
      (rest : Fields values slots) : Fields (α × values) (Option α × slots)

namespace Fields

/-- How many fields there are. -/
def length {values slots : Type} : Fields values slots → Nat
  | nil => 0
  | cons _ _ _ rest => rest.length + 1

/-- No place filled. -/
def noSlots {values slots : Type} : Fields values slots → slots
  | nil => ()
  | cons _ _ _ rest => (none, rest.noSlots)

/-- Takes in a member of an object. A key that is no field's is skipped; a field may occur once. -/
def put (room : Nat) (key : Text) (value : Tree) {values slots : Type} :
    Fields values slots → slots → Except Fault slots
  | nil, () => skip value
  | cons k _ reader rest, (slot, slots) =>
    if key = k then
      match slot with
      | some _ => .error (.duplicateField key)
      | none => (reader room value).map fun v => (some v, slots)
    else (rest.put room key value slots).map fun slots => (slot, slots)

/-- Takes in the members of an object in order. -/
def putAll {values slots : Type} (fields : Fields values slots) (room : Nat) :
    List (StringToken × Tree) → slots → Except Fault slots
  | [], slots => .ok slots
  | (key, value) :: members, slots => do
    let key ← key.text
    fields.putAll room members (← fields.put room key value slots)

/-- The value of a place once an object is closed. -/
def completeSlot {α : Type} (key : Text) (absence : Absence α) : Option α → Except Fault α
  | some v => .ok v
  | none => match absence with
    | .required => .error (.missingField key)
    | .optional v => .ok v
    | .default v => .ok v

/-- The values of the places once an object is closed. -/
def complete {values slots : Type} : Fields values slots → slots → Except Fault values
  | nil, () => .ok ()
  | cons key absence _ rest, (slot, slots) => do
    let v ← completeSlot key absence slot
    return (v, ← rest.complete slots)

/-- Reads the fields from the elements of a list. `index` counts the elements taken so far. -/
def readListed (name : Text) (count room : Nat) (ending : ListEnd) {values slots : Type} :
    Fields values slots → (index : Nat) → List Tree → Except Fault values
  | nil, _, [] => raise ending.closing
  | nil, _, _ :: _ => .error .trailingCharacters
  | cons _ _ reader rest, index, item :: items => do
    let v ← reader room item
    return (v, ← rest.readListed name count room ending (index + 1) items)
  | cons _ absence _ rest, index, [] => do
    raise ending.wanted
    match absence with
    | .default v => return (v, ← rest.readListed name count room ending (index + 1) [])
    | _ => .error (.wrongLength index name count)

end Fields

/-- A record: an object with the fields as keys, or a list of the fields in order. -/
def Reader.record {values slots : Type} (name : Text) (fields : Fields values slots) :
    Reader values := fun room t =>
  match t with
  | .object members ending => do
    let room ← enter room
    let slots ← fields.putAll room members fields.noSlots
    raise ending.wanted
    fields.complete slots
  | .keyless => do
    let _ ← enter room
    .error .keyNotString
  | .list items ending => do
    let room ← enter room
    fields.readListed name fields.length room ending 0 items
  | _ => mismatch (.record name) t

/-- Reads a text that holds one value and nothing else. -/
def decode {α : Type} (r : Reader α) (t : Text) : Except Fault α := do
  let (tree, rest) := readTree t
  let v ← r maxDepth tree
  if rest.isEmpty then .ok v else .error .trailingCharacters

end ListeningCharts.Json
