import ListeningCharts.DomainName.Ascii
import ListeningCharts.Http.IpAddress
import ListeningCharts.Text.Percent

/-! # Hosts

A host is a name or a number. Names that are looked up are read as domain names; the host of any
other address is kept as it is written.
-/

namespace ListeningCharts.Http

/-- A host. An address of a scheme that does not look hosts up may have an empty name. -/
inductive Host where
  | name (text : Text)
  | ipv4 (address : Nat)
  | ipv6 (groups : List Nat)
  deriving DecidableEq, Repr

namespace Host

/-- The host as an address writes it. -/
def toText : Host → Text
  | .name text => text
  | .ipv4 address => Ipv4.toText address
  | .ipv6 groups => "[" ++ Ipv6.toText groups ++ "]"

/-- Whether there is no name at all. -/
def isEmpty : Host → Bool
  | .name text => text.isEmpty
  | _ => false

/-- Reads what stands in brackets, after the opening one. -/
def readBracketed? (t : Text) : Option Host :=
  if t.getLast? = some ']' then (Ipv6.read? t.dropLast).map .ipv6 else none

/-- Reads a host that is looked up. -/
def readDomain? (t : Text) : Option Host :=
  match t with
  | '[' :: rest => readBracketed? rest
  | _ => do
    let name ← DomainName.toAscii? (← Utf8.decode? (Text.percentDecode t))
    if name.isEmpty then none
    else if Ipv4.endsInNumber name then (Ipv4.read? name).map .ipv4
    else return .name name

/-- Whether the character may not stand in a host that is kept as it is written. -/
def isForbidden (c : Char) : Bool := ("\x00\t\n\r #/:<>?@[\\]^|" : Text).contains c

/-- Reads a host that is kept as it is written. -/
def readOpaque? (t : Text) : Option Host :=
  match t with
  | '[' :: rest => readBracketed? rest
  | _ => if t.any isForbidden then none else some (.name (Text.percentEncode [] t))

end Host

end ListeningCharts.Http
