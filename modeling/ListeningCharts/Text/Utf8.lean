import ListeningCharts.Text.Basic

/-! # UTF-8

The bytes of a text, and two ways back: `decode?` refuses ill-formed bytes, `decodeLossy` puts the
replacement character in their place. Both read the bytes as `units`: a character for each
well-formed sequence, and a gap for each longest stretch that starts a sequence but does not end
it, or for a byte that starts none.
-/

namespace ListeningCharts

/-- The content of a file or of a reply. -/
abbrev Bytes := List UInt8

namespace Utf8

/-- The bytes of one character. -/
def encodeChar (c : Char) : Bytes :=
  let n := c.toNat
  let tail (unit : Nat) : UInt8 := UInt8.ofNat (0x80 + n / unit % 0x40)
  if n < 0x80 then [UInt8.ofNat n]
  else if n < 0x800 then [UInt8.ofNat (0xc0 + n / 0x40), tail 1]
  else if n < 0x10000 then [UInt8.ofNat (0xe0 + n / 0x1000), tail 0x40, tail 1]
  else [UInt8.ofNat (0xf0 + n / 0x40000), tail 0x1000, tail 0x40, tail 1]

/-- The bytes of a text. -/
def encode (t : Text) : Bytes := t.flatMap encodeChar

/-! ## Reading -/

/-- A sequence that has started: the payload read so far, the number of bytes still owed, and the
range of the next one. -/
structure Sequence where
  payload : Nat
  owed : Nat
  low : UInt8 := 0x80
  high : UInt8 := 0xbf

/-- What a byte means where a sequence starts. -/
inductive Start where
  | single (c : Char)
  | opening (s : Sequence)
  | illFormed

/-- Reads the first byte of a sequence. The ranges leave out overlong forms, surrogates and all
beyond the last code point. -/
def start (b : UInt8) : Start :=
  let n := b.toNat
  if n < 0x80 then .single (Char.ofNat n)
  else if n < 0xc2 then .illFormed
  else if n < 0xe0 then .opening { payload := n % 0x20, owed := 1 }
  else if n = 0xe0 then .opening { payload := 0, owed := 2, low := 0xa0 }
  else if n = 0xed then .opening { payload := 0xd, owed := 2, high := 0x9f }
  else if n < 0xf0 then .opening { payload := n % 0x10, owed := 2 }
  else if n = 0xf0 then .opening { payload := 0, owed := 3, low := 0x90 }
  else if n < 0xf4 then .opening { payload := n % 0x8, owed := 3 }
  else if n = 0xf4 then .opening { payload := 4, owed := 3, high := 0x8f }
  else .illFormed

/-- Reads on after `pending`, the sequence that is open. -/
def read : Option Sequence → Bytes → List (Option Char)
  | none, [] => []
  | some _, [] => [none]
  | none, b :: rest =>
    match start b with
    | .single c => some c :: read none rest
    | .opening s => read (some s) rest
    | .illFormed => none :: read none rest
  | some s, b :: rest =>
    if s.low ≤ b ∧ b ≤ s.high then
      let payload := s.payload * 0x40 + b.toNat % 0x40
      if s.owed = 1 then some (Char.ofNat payload) :: read none rest
      else read (some { payload, owed := s.owed - 1 }) rest
    else
      none :: match start b with
        | .single c => some c :: read none rest
        | .opening s => read (some s) rest
        | .illFormed => none :: read none rest

/-- The characters of well-formed sequences in order, with `none` for each ill-formed stretch. -/
def units (bytes : Bytes) : List (Option Char) := read none bytes

/-- The text of well-formed bytes. -/
def decode? (bytes : Bytes) : Option Text := (units bytes).mapM id

/-- The text of any bytes: each ill-formed stretch becomes U+FFFD. -/
def decodeLossy (bytes : Bytes) : Text := (units bytes).map fun u => u.getD '\uFFFD'

end Utf8

end ListeningCharts
