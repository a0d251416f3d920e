import ListeningCharts.Text.Integer
import ListeningCharts.Text.Utf8

/-! # Heads of replies

A reply starts with a head: a line with the status, a line for each header, and an empty line. Of its
headers those are read that say how long the body is and where the client is sent on to.
-/

namespace ListeningCharts.Http

/-- The head of a reply: its status, and its headers with their names in lower case. -/
structure Head where
  status : Nat
  headers : List (Text × Bytes)
  deriving DecidableEq, Repr

namespace Head

/-- The most headers that a head may have. -/
def maxHeaders : Nat := 100

/-- The first line, without the line feed and a carriage return before it, and what follows it. -/
def cutLine? (b : Bytes) : Option (Bytes × Bytes) :=
  match b.dropWhile (· != 10) with
  | [] => none
  | _ :: rest =>
    let line := b.takeWhile (· != 10)
    some (if line.getLast? = some 13 then line.dropLast else line, rest)

/-- Bytes as characters of the same numbers. -/
def characters (b : Bytes) : Text := b.map fun x => Char.ofNat x.toNat

/-- Reads a line with a status. Whatever stands behind the status is for people. -/
def readStatus? (line : Bytes) : Option Nat :=
  let t := characters line
  let version := t.take 9
  let rest := t.drop 12
  if version = ("HTTP/1.1 " : Text) ∨ version = ("HTTP/1.0 " : Text) then
    if rest.isEmpty || rest.head? == some ' ' then
      Text.digits? ((t.drop 9).take 3)
    else none
  else none

/-- Whether a character can be a part of the name of a header. -/
def isNameChar (c : Char) : Bool :=
  c.isAlphanum || ("!#$%&'*+-.^_`|~" : Text).contains c

/-- Whether a byte is a blank on a line. -/
def isBlankByte (b : UInt8) : Bool := b == 9 || b == 32

/-- Reads a line with a header. -/
def readHeader? (line : Bytes) : Option (Text × Bytes) :=
  let name := characters (line.takeWhile (· != 58))
  let value := ((line.drop (name.length + 1)).dropWhile isBlankByte).reverse.dropWhile isBlankByte
  if line.contains 58 && !name.isEmpty && name.all isNameChar &&
      value.all fun b => b == 9 || (32 ≤ b && b != 127) then
    some (Text.toAsciiLower name, value.reverse)
  else none

/-- Reads no more than so many lines with headers, the last of them empty, and what follows. -/
def readHeaders? : Nat → Bytes → Option (List (Text × Bytes) × Bytes)
  | 0, _ => none
  | lines + 1, b => do
    let (line, rest) ← cutLine? b
    if line.isEmpty then return ([], rest)
    else
      let header ← readHeader? line
      let (headers, rest) ← readHeaders? lines rest
      return (header :: headers, rest)

/-- Reads a head, and what follows it. -/
def read? (b : Bytes) : Option (Head × Bytes) := do
  let (line, rest) ← cutLine? b
  let status ← readStatus? line
  let (headers, rest) ← readHeaders? (maxHeaders + 1) rest
  return ({ status, headers }, rest)

/-- What the first header of a name says. -/
def value? (h : Head) (name : Text) : Option Bytes := h.headers.lookup name

/-- Where the head sends the client on to, if it says so in a text. -/
def location? (h : Head) : Option Text := (h.value? "location").bind Utf8.decode?

/-- The length of the body; none if it is no number. A body without a length is all that was
`received`. -/
def bodyLength? (h : Head) (received : Nat) : Option Nat :=
  match h.value? "content-length" with
  | none => some received
  | some value => Text.digits? (characters value)

end Head

end ListeningCharts.Http
