import ListeningCharts.Toml.Scalar

/-! # TOML strings

Strings in double quotes have escapes, strings in single quotes have none; in triple quotes, either
may run over several lines.
-/

namespace ListeningCharts.Toml

/-- Whether the character may not stand in a document outside a line break. -/
def isControl (c : Char) : Bool := (c < ' ' && c != '\t') || c == '\x7f'

/-- Whether the character is a space or a tab. -/
def isBlankChar (c : Char) : Bool := c == ' ' || c == '\t'

/-- The text without blanks at its start. -/
def skipBlank (t : Text) : Text := t.dropWhile isBlankChar

/-- The character that hexadecimal digits name. -/
def scalarValue? (digits : Text) : Option Char :=
  let n := inBase 16 digits
  if digits.all isHexDigit && (n < 0xd800 || (0xdfff < n && n < 0x110000)) then some (Char.ofNat n)
  else none

/-- The character of a code with `width` digits, and what follows it. -/
def code? (width : Nat) (t : Text) : Option (Char × Text) :=
  if (t.take width).length = width then (scalarValue? (t.take width)).map fun c => (c, t.drop width)
  else none

/-- The character of an escape, read after its backslash, and what follows it. -/
def escape? (t : Text) : Option (Char × Text) :=
  match t with
  | 'b' :: rest => some ('\x08', rest)
  | 't' :: rest => some ('\t', rest)
  | 'n' :: rest => some ('\n', rest)
  | 'f' :: rest => some ('\x0c', rest)
  | 'r' :: rest => some ('\r', rest)
  | 'e' :: rest => some ('\x1b', rest)
  | '"' :: rest => some ('"', rest)
  | '\\' :: rest => some ('\\', rest)
  | 'x' :: rest => code? 2 rest
  | 'u' :: rest => code? 4 rest
  | 'U' :: rest => code? 8 rest
  | _ => none

/-- A text with a character in front, and what follows it. -/
def prepend (c : Char) (read : Text × Text) : Text × Text := (c :: read.1, read.2)

/-! ## One line -/

/-- Reads a string after its double quote. The number bounds the characters read. -/
def readBasic : Nat → Text → Option (Text × Text)
  | 0, _ => none
  | limit + 1, t =>
    match t with
    | [] => none
    | '"' :: rest => some ([], rest)
    | '\\' :: rest => (escape? rest).bind fun (c, rest) => (readBasic limit rest).map (prepend c)
    | c :: rest => if isControl c then none else (readBasic limit rest).map (prepend c)

/-- Reads a string after its single quote. -/
def readLiteral (t : Text) : Option (Text × Text) :=
  match t.dropWhile (· != '\'') with
  | _ :: rest =>
    let body := t.takeWhile (· != '\'')
    if body.any isControl then none else some (body, rest)
  | [] => none

/-! ## Several lines -/

/-- What follows a line break. -/
def afterNewline? (t : Text) : Option Text :=
  match t with
  | '\n' :: rest => some rest
  | '\r' :: '\n' :: rest => some rest
  | _ => none

/-- What follows blanks and line breaks, without the line breaks that are no proper ones. -/
def skipLines : Text → Text
  | '\r' :: '\n' :: rest => skipLines rest
  | '\n' :: rest => skipLines rest
  | c :: rest => if isBlankChar c then skipLines rest else c :: rest
  | [] => []

/-- What closes a string in triple quotes: three quotes, with at most two more in front that belong to
the string. -/
def closing? (quote : Char) (t : Text) : Option (Text × Text) :=
  let quotes := (t.takeWhile (· == quote)).length
  if quotes < 3 then none
  else
    let extra := min (quotes - 3) 2
    some (List.replicate extra quote, t.drop (extra + 3))

/-- Reads a string after its three quotes. A backslash at the end of a line joins the line to what
stands next. The number bounds the characters read. -/
def readLines (quote : Char) (escapes : Bool) : Nat → Text → Option (Text × Text)
  | 0, _ => none
  | limit + 1, t =>
    match closing? quote t with
    | some closed => some closed
    | none =>
      match t with
      | [] => none
      | '\r' :: '\n' :: rest =>
        (readLines quote escapes limit rest).map fun read => prepend '\r' (prepend '\n' read)
      | '\n' :: rest => (readLines quote escapes limit rest).map (prepend '\n')
      | c :: rest =>
        if c = '\\' ∧ escapes = true then
          match afterNewline? (skipBlank rest) with
          | some next => readLines quote escapes limit (skipLines next)
          | none => (escape? rest).bind fun (c, rest) => (readLines quote escapes limit rest).map (prepend c)
        else if isControl c then none
        else (readLines quote escapes limit rest).map (prepend c)

/-- Reads a string from its opening quotes. A line break right after three quotes is dropped. -/
def readString (t : Text) : Option (Text × Text) :=
  match t with
  | '"' :: '"' :: '"' :: rest =>
    readLines '"' true (t.length + 1) ((afterNewline? rest).getD rest)
  | '\'' :: '\'' :: '\'' :: rest =>
    readLines '\'' false (t.length + 1) ((afterNewline? rest).getD rest)
  | '"' :: rest => readBasic (t.length + 1) rest
  | '\'' :: rest => readLiteral rest
  | _ => none

end ListeningCharts.Toml
