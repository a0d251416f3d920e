import ListeningCharts.Http.Head
import ListeningCharts.Http.Url
import ListeningCharts.Response
import ListeningCharts.Text.Quoted
import ListeningCharts.Update

/-! # Client of the listening service

A request is one line with its parameters in the query; what comes of it is a function of that line
and of what the server does with it. A reply may send the client on to another address, which then
gets a line of its own.
-/

namespace ListeningCharts

/-! ## The server's side -/

/-- What a server does with a request. -/
inductive Exchange where
  /-- A reply, `missing` bytes shorter than announced, perhaps with a reference to where the client
  should go on. -/
  | reply (status : Nat) (body : Bytes) (missing : Nat) (location : Option Text := none)
  /-- The connection closes without a reply. -/
  | noReply
  deriving DecidableEq, Repr

namespace Exchange

/-- What comes over a connection in bytes: replies that announce a further one, and then that one.
Each reply takes bytes, so there are no more of them than bytes. -/
def ofBytes : (replies : Nat) → Bytes → Exchange
  | 0, _ => .noReply
  | replies + 1, b =>
    match Http.Head.read? b with
    | none => .noReply
    | some (head, rest) =>
      if Http.isInterim head.status then ofBytes replies rest
      else
        match head.bodyLength? rest.length with
        | none => .noReply
        | some length =>
          .reply head.status (rest.take length) (length - rest.length) head.location?

/-- What an exchange ends with. What is sent behind a reply that announces a further one is read as
that one. -/
def settled : Exchange → Exchange
  | .reply status body missing location =>
    if Http.isInterim status then ofBytes body.length body
    else .reply status body missing location
  | .noReply => .noReply

end Exchange

/-- The hosts that a client talks to, as one server: what it will do with the next requests, and the
request lines it has received, in order. Once nothing is left to do it closes every connection. -/
structure Server where
  upcoming : List Exchange
  received : List Text := []
  deriving DecidableEq, Repr

namespace Server

/-- The server's answer to a request line. -/
def handle (s : Server) (requestLine : Text) : Exchange × Server :=
  let received := s.received ++ [requestLine]
  match s.upcoming with
  | [] => (.noReply, { upcoming := [], received })
  | e :: upcoming => (e.settled, { upcoming, received })

end Server

/-! ## Requests -/

/-- The name of the method that serves a family. -/
def Family.method : Family → Text
  | .recent => "user.getrecenttracks"
  | .tracks => "user.gettoptracks"
  | .artists => "user.gettopartists"
  | .albums => "user.gettopalbums"
  | .userInfo => "user.getinfo"

/-- The parameters that say what is wanted. -/
def Request.parameters (r : Request) : List (Text × Text) :=
  let user : Text × Text := ("user", r.user)
  let limit : Text × Text := ("limit", Text.ofNat r.config.rows)
  match r.family with
  | .recent => [user, limit, ("extended", "1")]
  | .tracks | .artists | .albums => [user, limit, ("period", r.config.period.name)]
  | .userInfo => [user]

/-- A client of the service: the key that it shows and the address that it asks. -/
structure Client where
  apiKey : Text
  baseUrl : Text
  deriving DecidableEq, Repr

namespace Client

/-- The address of the public service. -/
def publicUrl : Text := "https://ws.audioscrobbler.com/2.0/"

/-- The client as a text for logs, without its key. -/
def debugText (c : Client) : Text :=
  "LastFmClient \x7b base_url: " ++ c.baseUrl.quoted ++ ", .. \x7d"

/-- All parameters of a request, in order. -/
def parameters (c : Client) (r : Request) : List (Text × Text) :=
  let common : List (Text × Text) :=
    [("method", r.family.method), ("api_key", c.apiKey), ("format", "json")]
  common ++ r.parameters

/-- The address of a request. -/
def url (c : Client) (r : Request) : Except SourceFault Http.Url :=
  match Http.Url.parse? c.baseUrl with
  | none => .error (.badAddress none)
  | some u =>
    if !u.hasHost then .error (.badAddress (some u.toText))
    else
      let u := u.withoutCredentials.appendPairs (c.parameters r)
      if u.isWeb then .ok u else .error (.badAddress (some u.toText))

/-- The line that asks for an address. -/
def requestLine (u : Http.Url) : Text := "GET " ++ u.target ++ " HTTP/1.1"

/-! ## Replies -/

/-- The listing in a reply. An error that the service reports in its body counts before the status, a
status that is no success before what the body holds. -/
def readReply (f : Family) (status : Nat) (body : Text) : Except SourceFault Listing :=
  match Response.failure? body with
  | some (code, message) => .error (.refused f.method code message)
  | none =>
    if Http.isSuccess status then (Response.parse f body).mapError (.malformed f.method)
    else .error (.badStatus f.method status)

/-- The listing that comes of a request to an address, if its reply is taken as it is. A status that
ends no exchange is no reply. -/
def readExchange (f : Family) (u : Http.Url) : Exchange → Except SourceFault Listing
  | .noReply => .error (.noReply u.toText)
  | .reply status body missing _ =>
    if !Http.isFinal status then .error (.noReply u.toText)
    else if Http.hasBody status then
      if missing = 0 then readReply f status (Utf8.decodeLossy body) else .error .cutBody
    else readReply f status []

/-! ## Requests and replies -/

/-- What comes of the line that is sent for a request, wherever the reply may send the client. -/
def fetch (c : Client) (r : Request) (s : Server) : Except SourceFault Listing × Server :=
  match c.url r with
  | .error fault => (.error fault, s)
  | .ok u =>
    let (exchange, s) := s.handle (requestLine u)
    (readExchange r.family u exchange, s)

/-- How many replies in a row may send the client on. -/
def maxRedirects : Nat := 10

/-- Where a reply to a request at an address sends the client on to. A reference to the web to which
nothing can be sent counts for nothing. -/
def redirect? (u : Http.Url) : Exchange → Option Http.Url
  | .reply status _ _ (some location) =>
    if Http.isRedirect status then (u.join? location).filter fun v => v.isWeb || !v.isHttp else none
  | _ => none

/-- Asks for an address, and then for those that the replies send the client on to, no more than so
many. -/
def follow (f : Family) : (redirects : Nat) → Http.Url → Server →
    Except SourceFault Listing × Server
  | redirects, u, s =>
    let (exchange, s) := s.handle (requestLine u)
    match redirect? u exchange, redirects with
    | none, _ => (readExchange f u exchange, s)
    | some _, 0 => (.error (.tooManyRedirects u.toText), s)
    | some v, redirects + 1 =>
      if v.isWeb then follow f redirects v s else (.error (.badAddress (some v.toText)), s)

/-- The records that a server gives for a request. -/
def retrieve (c : Client) (r : Request) (s : Server) : Except SourceFault Listing × Server :=
  match c.url r with
  | .error fault => (.error fault, s)
  | .ok u => follow r.family maxRedirects u s

/-- The client as a source of records: it talks to the server in the second half of the state. -/
def source {τ : Type} (c : Client) : Source (τ × Server) := fun r (t, s) =>
  let (outcome, s) := c.retrieve r s
  (outcome.mapError Error.dataSource, (t, s))

end Client

end ListeningCharts
