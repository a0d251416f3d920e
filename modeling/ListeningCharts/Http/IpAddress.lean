import ListeningCharts.Text.Hex
import ListeningCharts.Text.Integer
import ListeningCharts.Text.Search

/-! # Numeric hosts

A host can be given by its number: four bytes, or eight groups of sixteen bits.
-/

namespace ListeningCharts.Http

/-! ## Four bytes -/

namespace Ipv4

/-- Reads one part: in hexadecimal behind `0x`, in octal behind `0`, in decimal otherwise. -/
def readPart? (t : Text) : Option Nat :=
  match t with
  | '0' :: 'x' :: digits | '0' :: 'X' :: digits =>
    if digits.isEmpty then some 0 else Text.inBase? 16 digits
  | '0' :: d :: digits => Text.inBase? 8 (d :: digits)
  | _ => Text.inBase? 10 t

/-- The parts of a name between dots, without an empty one at its end. -/
def parts (name : Text) : List Text :=
  let parts := name.splitOn '.'
  if 1 < parts.length && parts.getLast? == some [] then parts.dropLast else parts

/-- Whether a name ends in a number, so that it has to be an address. -/
def endsInNumber (name : Text) : Bool :=
  match (parts name).getLast? with
  | some last => (Text.digits? last).isSome || (readPart? last).isSome
  | none => false

/-- Reads an address. The last of its at most four parts fills the bytes that the others leave. -/
def read? (name : Text) : Option Nat := do
  let numbers ← (parts name).mapM readPart?
  let last ← numbers.getLast?
  let leading := numbers.dropLast
  let rest := Nat.pow 256 (4 - leading.length)
  if 3 < leading.length || leading.any (255 < ·) || rest ≤ last then none
  else return leading.foldl (· * 256 + ·) 0 * rest + last

/-- The four bytes in decimal. -/
def toText (address : Nat) : Text :=
  ['.'].intercalate ([3, 2, 1, 0].map fun i => Text.ofNat (address / Nat.pow 256 i % 256))

end Ipv4

/-! ## Eight groups -/

namespace Ipv6

/-- Reads a group of one to four hexadecimal digits. -/
def readGroup? (t : Text) : Option Nat := if t.length ≤ 4 then Text.hexValue? t else none

/-- Reads a byte in decimal without superfluous zeros. -/
def readByte? (t : Text) : Option Nat :=
  match t with
  | '0' :: _ :: _ => none
  | _ => (Text.digits? t).filter (· ≤ 255)

/-- Reads the two groups that four bytes make. -/
def readBytes? (t : Text) : Option (List Nat) :=
  match (t.splitOn '.').mapM readByte? with
  | some [a, b, c, d] => some [a * 256 + b, c * 256 + d]
  | _ => none

/-- Reads groups; the last two may be written as four bytes. -/
def readGroups? : List Text → Option (List Nat)
  | [] => some []
  | [last] => if last.contains '.' then readBytes? last else (readGroup? last).map fun g => [g]
  | first :: rest => do return (← readGroup? first) :: (← readGroups? rest)

/-- Reads what stands on one side of `::`, which may be nothing. -/
def readSide? (read : List Text → Option (List Nat)) (t : Text) : Option (List Nat) :=
  if t.isEmpty then some [] else read (t.splitOn ':')

/-- The groups on both sides of `::`, with at least one group of zero between them. -/
def fill? (before after : List Nat) : Option (List Nat) :=
  if before.length + after.length < 8 then
    some (before ++ List.replicate (8 - before.length - after.length) 0 ++ after)
  else none

/-- Reads an address: groups between colons, where `::` stands for one or more groups of zero. -/
def read? (t : Text) : Option (List Nat) :=
  match Text.cutAtFirst "::" t with
  | none => (readGroups? (t.splitOn ':')).filter (·.length == 8)
  | some (before, after) =>
    (readSide? (·.mapM readGroup?) before).bind fun before =>
      (readSide? readGroups? after).bind fun after => fill? before after

/-- Where the longest run of zeros starts, and its length. Of equal runs the first counts. -/
def longestZeros (groups : List Nat) : Nat × Nat :=
  (List.range groups.length).foldl (fun (start, length) i =>
    let here := ((groups.drop i).takeWhile (· == 0)).length
    if length < here then (i, here) else (start, length)) (0, 0)

/-- The groups in hexadecimal, with `::` for the longest run of two or more zeros. -/
def toText (groups : List Nat) : Text :=
  let join (gs : List Nat) : Text := [':'].intercalate (gs.map Text.hex)
  let (start, length) := longestZeros groups
  if length < 2 then join groups
  else join (groups.take start) ++ "::" ++ join (groups.drop (start + length))

end Ipv6

end ListeningCharts.Http
