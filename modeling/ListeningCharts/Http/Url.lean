import ListeningCharts.Http.Host
import ListeningCharts.Http.Path
import ListeningCharts.Text.FormEncoded

/-! # Addresses

An absolute address: a scheme, a host where the scheme has one, a path, a query and a fragment.
Characters that may not stand where they are written become `%` and two digits for each of their
bytes. How the rest is read depends on the scheme: schemes of a network always have a host, files
may have one, and all other schemes keep what they do not know.
-/

namespace ListeningCharts.Http

/-! ## Schemes -/

/-- How the addresses of a scheme are read. -/
inductive SchemeKind where
  | network
  | file
  | other
  deriving DecidableEq, Repr

/-- The kind of a scheme in lower case. -/
def SchemeKind.of (scheme : Text) : SchemeKind :=
  if [("http" : Text), "https", "ftp", "ws", "wss"].contains scheme then .network
  else if scheme = ("file" : Text) then .file
  else .other

/-- Whether a character separates segments. -/
def SchemeKind.separates (kind : SchemeKind) (c : Char) : Bool :=
  c == '/' || (c == '\\' && kind != .other)

/-- The port that an address of the scheme leaves out. -/
def defaultPort? (scheme : Text) : Option Nat :=
  if scheme = ("http" : Text) ∨ scheme = ("ws" : Text) then some 80
  else if scheme = ("https" : Text) ∨ scheme = ("wss" : Text) then some 443
  else if scheme = ("ftp" : Text) then some 21
  else none

/-! ## Parts of an address -/

/-- The name and the password that an address gives to its host, as it writes them. -/
structure Credentials where
  user : Text
  password : Option Text
  deriving DecidableEq, Repr

/-- Who is asked: a host at a port. -/
structure Authority where
  credentials : Option Credentials := none
  host : Host
  port : Option Nat := none
  deriving DecidableEq, Repr

/-- An absolute address. -/
structure Url where
  /-- In lower case. -/
  scheme : Text
  authority : Option Authority := none
  path : Text
  query : Option Text := none
  fragment : Option Text := none
  deriving DecidableEq, Repr

/-- Credentials as they stand before a host. -/
def Credentials.toText (c : Credentials) : Text :=
  let password : Text := match c.password with
    | some p => ":" ++ p
    | none => []
  c.user ++ password ++ "@"

/-- An authority as an address writes it. -/
def Authority.toText (a : Authority) : Text :=
  let credentials : Text := match a.credentials with
    | some c => c.toText
    | none => []
  let port : Text := match a.port with
    | some p => ":" ++ Text.ofNat p
    | none => []
  credentials ++ a.host.toText ++ port

namespace Url

/-! ## Cutting -/

/-- What stands before and after the first occurrence of a character. -/
def cutAt (c : Char) (t : Text) : Text × Option Text :=
  match t.dropWhile (· != c) with
  | [] => (t, none)
  | _ :: after => (t.takeWhile (· != c), some after)

/-- What stands before and after the last occurrence of a character. -/
def cutAtLast (c : Char) (t : Text) : Option (Text × Text) :=
  match cutAt c t.reverse with
  | (_, none) => none
  | (after, some before) => some (before.reverse, after.reverse)

/-- What stands before and after the first colon outside brackets. -/
def cutAtPort (inBrackets : Bool) : Text → Text × Option Text
  | [] => ([], none)
  | c :: rest =>
    if c = ':' ∧ inBrackets = false then ([], some rest)
    else
      let (host, port) := cutAtPort (c == '[' || (inBrackets && c != ']')) rest
      (c :: host, port)

/-- The text without what an address may be pasted with: line breaks and tabs anywhere, blanks and
controls at its ends. -/
def tidy (t : Text) : Text :=
  let t := (t.dropWhile (· ≤ ' ')).reverse.dropWhile (· ≤ ' ') |>.reverse
  t.filter fun c => c != '\t' && c != '\n' && c != '\r'

/-- The scheme of an absolute address, in lower case, and what follows the colon. -/
def readScheme? (t : Text) : Option (Text × Text) :=
  match cutAt ':' t with
  | (first :: more, some rest) =>
    if first.isAlpha && more.all fun c => c.isAlphanum || c == '+' || c == '-' || c == '.' then
      some (Text.toAsciiLower (first :: more), rest)
    else none
  | _ => none

/-! ## Reading an authority -/

/-- Reads a name and a password with a colon between them. -/
def readCredentials? (t : Text) : Option Credentials :=
  let encode := Text.percentEncode " \"#<>?`\x7b\x7d/:;=@[\\]^|"
  let (user, password) := cutAt ':' t
  let password := password.filter (!·.isEmpty)
  if user.isEmpty && password.isNone then none
  else some { user := encode user, password := password.map encode }

/-- Reads a port, and what follows its digits. The port of the scheme is left out. -/
def readPort? (scheme t : Text) : Option (Option Nat × Text) :=
  let rest := t.dropWhile Char.isDigit
  match Text.digits? (t.takeWhile Char.isDigit) with
  | none => some (none, rest)
  | some n =>
    if 65535 < n then none
    else some (if defaultPort? scheme = some n then none else some n, rest)

/-- Reads an authority. `isLast` says that nothing follows it. Where a backslash does not separate
segments it ends a port, and with what follows it belongs to the path. -/
def readAuthority? (scheme t : Text) (isLast : Bool) : Option (Authority × Text) := do
  let (credentials, place) := (cutAtLast '@' t).getD ([], t)
  if t.head? == some '@' && credentials.isEmpty && place.isEmpty && !isLast then none
  else
    let credentials := readCredentials? credentials
    let (host, port) := cutAtPort false place
    let isOther := SchemeKind.of scheme == .other
    let host ← if isOther then Host.readOpaque? host else Host.readDomain? host
    let (port, rest) ← match port with
      | none => some (none, [])
      | some port => if host.isEmpty then none else readPort? scheme port
    if host.isEmpty && credentials.isSome then none
    else if rest.isEmpty || (isOther && rest.head? == some '\\') then
      return ({ credentials, host, port }, rest)
    else none

/-! ## Reading an address -/

/-- Reads what follows the scheme of a network. -/
def readNetwork? (scheme t : Text) : Option (Authority × Text) := do
  let separates := SchemeKind.network.separates
  let t := t.dropWhile separates
  let path := t.dropWhile fun c => !separates c
  let (authority, _) ← readAuthority? scheme (t.takeWhile fun c => !separates c) path.isEmpty
  return (authority, Path.read separates path)

/-- Reads what follows the scheme of a file. A drive takes the place of a host. -/
def readFile? (t : Text) : Option (Option Authority × Text) := do
  let separates := SchemeKind.file.separates
  let resolve (t : Text) : List Text := Path.resolve true [] (Path.segments separates t)
  let path (segments : List Text) : Text := Path.ofSegments (Path.dropEmpty segments)
  match t with
  | a :: b :: rest =>
    if separates a && separates b then
      let host := rest.takeWhile fun c => !separates c
      let after := rest.dropWhile fun c => !separates c
      if Path.isDrive host then return (none, path (resolve rest))
      else if host.isEmpty then return (none, path (resolve after))
      else
        let host ← Host.readDomain? host
        if host = .name "localhost" then return (none, path (resolve after))
        else
          let segments := resolve (Path.dropRoot separates after)
          if segments.head?.any Path.isDrive then return (none, path segments)
          else return (some { host }, path segments)
    else return (none, path (resolve (Path.dropRoot separates t)))
  | _ => return (none, path (resolve (Path.dropRoot separates t)))

/-- Reads what follows any other scheme. A path that does not start at the root is kept as it is
written. -/
def readOther? (scheme t : Text) (isLast : Bool) : Option (Option Authority × Text) := do
  let separates := SchemeKind.other.separates
  match t with
  | '/' :: '/' :: rest =>
    let path := rest.dropWhile fun c => !separates c
    let (authority, before) ← readAuthority? scheme (rest.takeWhile fun c => !separates c)
      (path.isEmpty && isLast)
    let path := before ++ path
    return (some authority, if path.isEmpty then [] else Path.read separates path)
  | '/' :: _ => return (none, Path.read separates t)
  | _ => return (none, Text.percentEncode [] t)

/-- Reads an absolute address; none if the text is not one. -/
def parse? (t : Text) : Option Url := do
  let (scheme, rest) ← readScheme? (tidy t)
  let (rest, fragment) := cutAt '#' rest
  let (rest, query) := cutAt '?' rest
  let isLast := query.isNone && fragment.isNone
  let kind := SchemeKind.of scheme
  let query := query.map (Text.percentEncode (if kind = .other then " \"#<>" else " \"#<>'"))
  let fragment := fragment.map (Text.percentEncode " \"<>`")
  let (authority, path) ← match kind with
    | .network => (readNetwork? scheme rest).map fun (a, p) => (some a, p)
    | .file => readFile? rest
    | .other => readOther? scheme rest isLast
  return { scheme, authority, path, query, fragment }

/-! ## Writing -/

/-- Whether the address names a host. -/
def hasHost (u : Url) : Bool := u.authority.any fun a => !a.host.isEmpty

/-- The address without its credentials. They stay if the name is not the bytes of a text, or if
there is neither a name nor a password that is. -/
def withoutCredentials (u : Url) : Url :=
  match u.authority with
  | some { credentials := some c, host, port } =>
    let password := c.password.bind fun p => Utf8.decode? (Text.percentDecode p)
    match Utf8.decode? (Text.percentDecode c.user) with
    | none => u
    | some user =>
      if user.isEmpty && password.isNone then u
      else { u with authority := some { host, port } }
  | _ => u

/-- The address with pairs appended to its query. -/
def appendPairs (u : Url) (pairs : List (Text × Text)) : Url :=
  match u.query with
  | none | some [] => { u with query := some (Text.formPairs pairs) }
  | some q => { u with query := some (q ++ "&" ++ Text.formPairs pairs) }

/-- What a request asks the host for. -/
def target (u : Url) : Text :=
  match u.query with
  | none => u.path
  | some q => u.path ++ "?" ++ q

/-- What stands between the scheme and the path. A path with an empty segment at its start is kept
apart from a host. -/
def hostPart (u : Url) : Text :=
  match u.authority with
  | some a => "//" ++ a.toText
  | none =>
    if SchemeKind.of u.scheme = .file then "//"
    else if ("//" : Text).isPrefixOf u.path then "/."
    else []

/-- The address as a text. -/
def toText (u : Url) : Text :=
  let fragment : Text := match u.fragment with
    | none => []
    | some f => "#" ++ f
  u.scheme ++ ":" ++ u.hostPart ++ u.target ++ fragment

/-! ## References -/

/-- What a reference stands behind if it is no address of its own: as much of the address as the
reference does not say anew. -/
def lead (u : Url) (reference : Text) : Text :=
  let site := u.scheme ++ ":" ++ u.hostPart
  match reference with
  | [] | '#' :: _ => site ++ u.target
  | '?' :: _ => site ++ u.path
  | '/' :: '/' :: _ => u.scheme ++ ":"
  | '/' :: _ => site
  | _ => site ++ (u.path.reverse.dropWhile (· != '/')).reverse

/-- The address to which a reference leads from an address. -/
def join? (u : Url) (reference : Text) : Option Url :=
  let t := tidy reference
  if (readScheme? t).isSome then parse? t else parse? (u.lead t ++ t)

/-! ## Sending -/

/-- Whether the address is one of the web. -/
def isHttp (u : Url) : Bool := u.scheme == ("http" : Text) || u.scheme == ("https" : Text)

/-- The most bytes of an address to which a request can be sent. -/
def maxSent : Nat := 65534

/-- Whether a request to the host can be sent. -/
def isSendableHost (h : Host) : Bool :=
  !h.toText.any fun c => ("\"`\x7b\x7d" : Text).contains c

/-- Whether requests can be sent to the address. -/
def isWeb (u : Url) : Bool :=
  u.isHttp &&
    Text.byteLength u.toText ≤ maxSent && u.authority.all fun a => isSendableHost a.host

end Url

end ListeningCharts.Http
