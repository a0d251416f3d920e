import ListeningCharts.Text.Hex

/-! # JSON trees

A text read as JSON, as far as it goes. Where the grammar breaks off, the tree says how: a `missing`
value, a string or a number that does not end, a list or an object that is not closed. Nothing after
the break is read, so a tree has at most one, at the end of the input it covers. What a break means
depends on who looks at it; a tree only records what stands there.

Numbers and strings keep the form in which they were written.
-/

namespace ListeningCharts.Json

/-! ## Tokens -/

/-- A number as it was written. The digits of the whole part have no leading zero. -/
structure Numeral where
  negative : Bool
  whole : Text
  fraction : Option Text
  /-- Whether the exponent is negative, and its digits. -/
  exponent : Option (Bool × Text)
  deriving DecidableEq, Repr

/-- A piece of a string: a character, or a code unit that was written in hexadecimal. -/
inductive StringPiece where
  | char (c : Char)
  | codeUnit (n : Nat)
  deriving DecidableEq, Repr

/-- How a string ends. -/
inductive StringEnd where
  | closed
  | endOfInput
  | unknownEscape
  | badHex
  | control
  deriving DecidableEq, Repr

/-- A string as it was written, after the opening quote. -/
structure StringToken where
  pieces : List StringPiece
  ending : StringEnd
  deriving DecidableEq, Repr

/-- A string that holds a text and is closed. -/
def StringToken.ofText (t : Text) : StringToken := ⟨t.map .char, .closed⟩

/-! ## Trees -/

/-- What stands where a value was wanted. -/
inductive ValueFault where
  | endOfInput
  | noValue
  | misspelt
  | nameCut
  | numberCut
  | badNumber
  | noColon
  | endBeforeColon
  deriving DecidableEq, Repr

/-- What follows the last element of a list. -/
inductive ListEnd where
  | closed
  | endOfInput
  | trailingComma
  | noSeparator
  /-- The last element breaks off. -/
  | broken
  deriving DecidableEq, Repr

/-- What follows the last member of an object. -/
inductive ObjectEnd where
  | closed
  | endOfInput
  | trailingComma
  | endAfterComma
  | noSeparator
  | noKey
  /-- The last member breaks off. -/
  | broken
  deriving DecidableEq, Repr

/-- A JSON value, as far as it could be read. -/
inductive Tree where
  | missing (fault : ValueFault)
  | null
  | boolean (b : Bool)
  | number (n : Numeral)
  | string (s : StringToken)
  | list (items : List Tree) (ending : ListEnd)
  | object (members : List (StringToken × Tree)) (ending : ObjectEnd)
  /-- An object with something else than a string where its first key should stand. -/
  | keyless

/-- Whether reading broke off inside the value. -/
def Tree.isBroken : Tree → Bool
  | .missing _ => true
  | .string s => s.ending != .closed
  | .list _ ending => ending != .closed
  | .object _ ending => ending != .closed
  | .keyless => true
  | _ => false

/-! ## Reading tokens -/

/-- Whether the character may stand between tokens. -/
def isSpace (c : Char) : Bool := c == ' ' || c == '\t' || c == '\n' || c == '\r'

/-- The text from its first token on. -/
def skipSpace (t : Text) : Text := t.dropWhile isSpace

/-- The character that a letter after a backslash stands for. -/
def escaped? : Char → Option Char
  | '"' => some '"'
  | '\\' => some '\\'
  | '/' => some '/'
  | 'b' => some '\x08'
  | 'f' => some '\x0c'
  | 'n' => some '\n'
  | 'r' => some '\r'
  | 't' => some '\t'
  | _ => none

/-- A string with one more piece in front. -/
def StringToken.cons (p : StringPiece) (s : StringToken) : StringToken := { s with pieces := p :: s.pieces }

/-- Reads a string after its opening quote. An escape of a code unit is cut short if fewer than four
bytes follow it. -/
def readString : Text → StringToken × Text
  | [] => (⟨[], .endOfInput⟩, [])
  | '"' :: rest => (⟨[], .closed⟩, rest)
  | '\\' :: 'u' :: a :: b :: c :: d :: rest =>
    match Text.hexValue? [a, b, c, d] with
    | some n =>
      let (s, rest) := readString rest
      (s.cons (.codeUnit n), rest)
    | none => (⟨[], .badHex⟩, rest)
  | '\\' :: 'u' :: rest => (⟨[], if Text.byteLength rest < 4 then .endOfInput else .badHex⟩, rest)
  | '\\' :: e :: rest =>
    match escaped? e with
    | some c =>
      let (s, rest) := readString rest
      (s.cons (.char c), rest)
    | none => (⟨[], .unknownEscape⟩, rest)
  | ['\\'] => (⟨[], .endOfInput⟩, [])
  | c :: rest =>
    if c < ' ' then (⟨[], .control⟩, rest)
    else
      let (s, rest) := readString rest
      (s.cons (.char c), rest)

/-- The digits at the start of a text, and the rest. -/
def takeDigits (t : Text) : Text × Text := t.span Char.isDigit

/-- What is wrong where a digit was wanted. -/
def noDigit (t : Text) : Tree := .missing (if t.isEmpty then .numberCut else .badNumber)

/-- Reads the exponent of a number, if it has one. -/
def readExponent (n : Numeral) (t : Text) : Tree × Text :=
  match t with
  | e :: rest =>
    if e = 'e' ∨ e = 'E' then
      let (negative, rest) :=
        match rest with
        | '+' :: rest => (false, rest)
        | '-' :: rest => (true, rest)
        | rest => (false, rest)
      match takeDigits rest with
      | ([], rest) => (noDigit rest, rest)
      | (digits, rest) => (.number { n with exponent := some (negative, digits) }, rest)
    else (.number n, t)
  | [] => (.number n, t)

/-- Reads a number after its minus sign, if it has one. -/
def readNumber (negative : Bool) (t : Text) : Tree × Text :=
  match takeDigits t with
  | ([], rest) => (noDigit rest, rest)
  | (whole, rest) =>
    if whole.length > 1 ∧ whole.head? = some '0' then (.missing .badNumber, rest)
    else
      let n : Numeral := ⟨negative, whole, none, none⟩
      match rest with
      | '.' :: rest =>
        match takeDigits rest with
        | ([], rest) => (noDigit rest, rest)
        | (digits, rest) => readExponent { n with fraction := some digits } rest
      | rest => readExponent n rest

/-- Reads the rest of a literal name, `expected`, as the value `v`. -/
def readName (v : Tree) : (expected : List Char) → Text → Tree × Text
  | [], t => (v, t)
  | _ :: _, [] => (.missing .nameCut, [])
  | e :: expected, c :: t => if c = e then readName v expected t else (.missing .misspelt, t)

/-! ## Reading values -/

mutual

/-- Reads a value. The number bounds the calls: every character costs at most two. -/
def readValue : Nat → Text → Tree × Text
  | 0, t => (.missing .endOfInput, t)
  | calls + 1, t =>
    match skipSpace t with
    | [] => (.missing .endOfInput, [])
    | 'n' :: rest => readName .null ['u', 'l', 'l'] rest
    | 't' :: rest => readName (.boolean true) ['r', 'u', 'e'] rest
    | 'f' :: rest => readName (.boolean false) ['a', 'l', 's', 'e'] rest
    | '-' :: rest => readNumber true rest
    | '"' :: rest =>
      let (s, rest) := readString rest
      (.string s, rest)
    | '[' :: rest =>
      match skipSpace rest with
      | [] => (.list [] .endOfInput, [])
      | ']' :: rest => (.list [] .closed, rest)
      | rest =>
        let (items, ending, rest) := readItems calls rest
        (.list items ending, rest)
    | '\x7b' :: rest =>
      match skipSpace rest with
      | [] => (.object [] .endOfInput, [])
      | '\x7d' :: rest => (.object [] .closed, rest)
      | '"' :: rest =>
        let (members, ending, rest) := readMembers calls rest
        (.object members ending, rest)
      | rest => (.keyless, rest)
    | c :: rest => if c.isDigit then readNumber false (c :: rest) else (.missing .noValue, rest)

/-- Reads the elements of a list, at least one. -/
def readItems : Nat → Text → List Tree × ListEnd × Text
  | 0, t => ([], .broken, t)
  | calls + 1, t =>
    let (item, rest) := readValue calls t
    if item.isBroken then ([item], .broken, rest)
    else
      match skipSpace rest with
      | [] => ([item], .endOfInput, [])
      | ']' :: rest => ([item], .closed, rest)
      | ',' :: rest =>
        match skipSpace rest with
        | ']' :: rest => ([item], .trailingComma, rest)
        | rest =>
          let (items, ending, rest) := readItems calls rest
          (item :: items, ending, rest)
      | rest => ([item], .noSeparator, rest)

/-- Reads the members of an object, at least one, after the opening quote of the first key. -/
def readMembers : Nat → Text → List (StringToken × Tree) × ObjectEnd × Text
  | 0, t => ([], .broken, t)
  | calls + 1, t =>
    let (key, rest) := readString t
    if key.ending ≠ .closed then ([(key, .missing .endOfInput)], .broken, rest)
    else
      match skipSpace rest with
      | [] => ([(key, .missing .endBeforeColon)], .broken, [])
      | ':' :: rest =>
        let (value, rest) := readValue calls rest
        if value.isBroken then ([(key, value)], .broken, rest)
        else
          match skipSpace rest with
          | [] => ([(key, value)], .endOfInput, [])
          | '\x7d' :: rest => ([(key, value)], .closed, rest)
          | ',' :: rest =>
            match skipSpace rest with
            | [] => ([(key, value)], .endAfterComma, [])
            | '\x7d' :: rest => ([(key, value)], .trailingComma, rest)
            | '"' :: rest =>
              let (members, ending, rest) := readMembers calls rest
              ((key, value) :: members, ending, rest)
            | rest => ([(key, value)], .noKey, rest)
          | rest => ([(key, value)], .noSeparator, rest)
      | rest => ([(key, .missing .noColon)], .broken, rest)

end

/-- Reads the value at the start of a text; the rest is what follows it, without the space between. -/
def readTree (t : Text) : Tree × Text :=
  let (v, rest) := readValue (2 * t.length + 2) t
  (v, skipSpace rest)

end ListeningCharts.Json
