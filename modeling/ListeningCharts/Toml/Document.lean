import ListeningCharts.Toml.Quoted

/-! # TOML documents

A document is a table written line by line: keys with their values, and headers that say to which
table the keys below them belong.
-/

namespace ListeningCharts.Toml

/-! ## Between tokens -/

/-- What follows blanks, line breaks and comments. -/
def skipTrivia : (inComment : Bool) → Text → Option Text
  | _, [] => some []
  | _, '\n' :: rest => skipTrivia false rest
  | _, '\r' :: '\n' :: rest => skipTrivia false rest
  | true, c :: rest => if isControl c then none else skipTrivia true rest
  | false, c :: rest =>
    if c = '#' then skipTrivia true rest
    else if isBlankChar c then skipTrivia false rest
    else some (c :: rest)

/-- The lines after the present one, of which only blanks and a comment may be left. -/
def endLine? (t : Text) : Option Text :=
  match skipBlank t with
  | [] => some []
  | '#' :: rest =>
    let comment := rest.takeWhile fun c => c != '\n' && c != '\r'
    let rest := rest.dropWhile fun c => c != '\n' && c != '\r'
    if comment.any isControl then none
    else if rest.isEmpty then some []
    else afterNewline? rest
  | rest => afterNewline? rest

/-! ## Keys -/

/-- Whether the character may stand in a key without quotes. -/
def isBareChar (c : Char) : Bool := c.isAlphanum || c == '_' || c == '-'

/-- Reads one part of a key. -/
def readKeyPart (t : Text) : Option (Text × Text) :=
  match t with
  | '"' :: rest => readBasic (t.length + 1) rest
  | '\'' :: rest => readLiteral rest
  | _ =>
    let bare := t.takeWhile isBareChar
    if bare.isEmpty then none else some (bare, t.dropWhile isBareChar)

/-- How many parts a key may have. -/
def maxParts : Nat := 80

/-- Reads a key of at most `limit` parts: the parts in front of the last one, the last one, and what
follows, without blanks. -/
def readParts : (limit : Nat) → Text → Option (List Text × Text × Text)
  | 0, _ => none
  | limit + 1, t => do
    let (part, rest) ← readKeyPart t
    match skipBlank rest with
    | '.' :: rest =>
      let (path, last, rest) ← readParts limit (skipBlank rest)
      return (part :: path, last, rest)
    | rest => return ([], part, rest)

/-- Reads a key. -/
def readKey (t : Text) : Option (List Text × Text × Text) := readParts maxParts t

/-! ## Values -/

/-- How deep arrays and inline tables may be nested. -/
def maxDepth : Nat := 80

/-- Whether the character ends a scalar without quotes. -/
def endsScalar (c : Char) : Bool :=
  isBlankChar c || c == '\r' || c == '\n' || c == ',' || c == ']' || c == '\x7d' || c == '#'
    || c == '=' || c == '[' || c == '\x7b' || c == '"' || c == '\''

/-- Reads a scalar without quotes. A date may be followed by a space and a time. -/
def readScalar (t : Text) : Option (Value × Text) :=
  let word := t.takeWhile fun c => !endsScalar c
  let rest := t.dropWhile fun c => !endsScalar c
  let (word, rest) :=
    match afterDate? word, rest with
    | some [], ' ' :: c :: more =>
      if c.isDigit then
        (word ++ ' ' :: (c :: more).takeWhile (fun c => !endsScalar c),
          (c :: more).dropWhile fun c => !endsScalar c)
      else (word, rest)
    | _, _ => (word, rest)
  (scalar? word).map fun v => (v, rest)

mutual

/-- Reads a value. `calls` bounds the calls, of which every character costs at most two; `room` is how
many arrays and inline tables may still be entered. -/
def readValue : (calls room : Nat) → Text → Option (Value × Text)
  | 0, _, _ => none
  | calls + 1, room, t =>
    match t, room with
    | '"' :: _, _ | '\'' :: _, _ => (readString t).map fun (s, rest) => (.string s, rest)
    | '[' :: _, 0 | '\x7b' :: _, 0 => none
    | '[' :: rest, room + 1 => do
      let (items, rest) ← readItems calls room (← skipTrivia false rest)
      return (.array items, rest)
    | '\x7b' :: rest, room + 1 => do
      let (entries, rest) ← readMembers calls room [] (← skipTrivia false rest)
      return (.table .inline entries, rest)
    | _, _ => readScalar t

/-- Reads the items of an array up to its bracket. -/
def readItems : (calls room : Nat) → Text → Option (List Value × Text)
  | 0, _, _ => none
  | calls + 1, room, t =>
    match t with
    | ']' :: rest => some ([], rest)
    | _ => do
      let (v, rest) ← readValue calls room t
      match ← skipTrivia false rest with
      | ']' :: rest => return ([v], rest)
      | ',' :: rest =>
        let (items, rest) ← readItems calls room (← skipTrivia false rest)
        return (v :: items, rest)
      | _ => none

/-- Reads the members of an inline table up to its brace, in addition to `entries`. Line breaks and
comments may stand everywhere but inside a key. -/
def readMembers : (calls room : Nat) → Entries → Text → Option (Entries × Text)
  | 0, _, _, _ => none
  | calls + 1, room, entries, t =>
    match t with
    | '\x7d' :: rest => some (entries, rest)
    | _ => do
      let (path, key, rest) ← readKey t
      let rest ← after? '=' (← skipTrivia false rest)
      let (v, rest) ← readValue calls room (← skipTrivia false rest)
      let entries ← Entries.addKey path key v .header entries
      match ← skipTrivia false rest with
      | '\x7d' :: rest => return (entries, rest)
      | ',' :: rest => readMembers calls room entries (← skipTrivia false rest)
      | _ => none

end

/-! ## Lines -/

/-- A document as far as it was read: its table, and the path of the header that keys belong to. -/
structure State where
  root : Entries := []
  header : List Text := []

/-- Takes in a header, read after its first bracket. -/
def readHeader (s : State) (t : Text) : Option (State × Text) :=
  match t with
  | '[' :: rest => do
    let (path, key, rest) ← readKey (skipBlank rest)
    let rest ← endLine? (← after? ']' (← after? ']' rest))
    return ({ root := ← Entries.openTables path key s.root, header := path ++ [key] }, rest)
  | _ => do
    let (path, key, rest) ← readKey (skipBlank t)
    let rest ← endLine? (← after? ']' rest)
    return ({ root := ← Entries.openTable path key s.root, header := path ++ [key] }, rest)

/-- Takes in a key with its value. -/
def readAssignment (s : State) (t : Text) : Option (State × Text) := do
  let (path, key, rest) ← readKey t
  let (v, rest) ← readValue (2 * t.length + 2) maxDepth (skipBlank (← after? '=' rest))
  let rest ← endLine? rest
  let root ← Entries.changeAt false (Entries.addKey path key v) s.header .header s.root
  return ({ s with root }, rest)

/-- Takes in the lines of a document. The number bounds the lines. -/
def readDocument : Nat → State → Text → Option State
  | 0, _, _ => none
  | limit + 1, s, t =>
    match skipBlank t with
    | [] => some s
    | '[' :: rest => do
      let (s, rest) ← readHeader s rest
      readDocument limit s rest
    | c :: rest =>
      if c = '\n' ∨ c = '\r' ∨ c = '#' then do
        readDocument limit s (← endLine? (c :: rest))
      else do
        let (s, rest) ← readAssignment s (c :: rest)
        readDocument limit s rest

/-- The table of a document; none if the document is malformed. A byte order mark at the start is
passed over. -/
def parse? (t : Text) : Option Entries :=
  let t := if t.head? = some '\uFEFF' then t.drop 1 else t
  (readDocument (t.length + 1) {} t).map State.root

end ListeningCharts.Toml
