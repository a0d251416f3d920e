import ListeningCharts.Proofs.Disclosure
import ListeningCharts.Proofs.Lines
import ListeningCharts.Proofs.Schema

/-! # The query of a request, read back

    The parameters of a request stand in the query of the one line that is sent for it. Whoever
    receives the line reads the query as a form: it is cut at `&`, each piece at its first `=`, and
    both halves are read back.

    * **Forms**: no separator is left in what a form writes, so the pairs that it writes are the
      pairs that are read (`Text.readPairs?_formPairs`).
    * **Lines**: a question mark and a space enclose the query in the line that asks for it
      (`queryOf_requestLine`).
    * **Requests**: the line is sent if the address is not too long, and it is the only one
      (`Client.received_fetch`).

    A line thus tells the parameters, and with them all that the request is about
    (`parameters_read_back`).
-/

namespace ListeningCharts

/-! ## Pairs of a form -/

namespace Text

/-- The pair that a piece of a query writes. A piece without `=` is a name alone. -/
def readPair? (piece : Text) : Option (Text × Text) := do
  let (name, value) := Http.Url.cutAt '=' piece
  return (← formDecode? name, ← formDecode? (value.getD []))

/-- The pairs that a query writes, in order. Empty pieces count for nothing. -/
def readPairs? (query : Text) : Option (List (Text × Text)) :=
  ((query.splitOn '&').filter fun piece => !piece.isEmpty).mapM readPair?

/-- What separates the parts of an address, of a query or of a request line. -/
def separators : Text := " &=?#"

/-- A separator is neither a sign that a form puts for a byte nor a character that it leaves as it
    is. -/
theorem of_mem_separators {c : Char} (hc : c ∈ separators) : c ≠ '+' ∧ c ≠ '%' ∧
    (c.isAlphanum || c == '*' || c == '-' || c == '.' || c == '_') = false := by
  have hcases : c ∈ [' ', '&', '=', '?', '#'] := hc
  simp only [List.mem_cons, List.not_mem_nil, or_false] at hcases
  rcases hcases with rfl | rfl | rfl | rfl | rfl <;> decide

theorem not_mem_formByte {c : Char} (hc : c ∈ separators) (b : UInt8) : c ∉ formByte b := by
  have hdigit : ∀ n < 16, upperHexDigit n ∉ separators := by decide
  obtain ⟨hplus, hpercent, hunsafe⟩ := of_mem_separators hc
  have hb := b.toNat_lt
  -- a space is written as a plus sign, a safe byte as it is, and any other one with two digits
  rw [formByte]
  split
  · exact fun hmem => hplus (List.mem_singleton.1 hmem)
  · split
    · next hsafe =>
      intro hmem
      rw [isFormSafe, ← List.mem_singleton.1 hmem, hunsafe] at hsafe
      cases hsafe
    · intro hmem
      simp only [percentByte, List.mem_cons, List.not_mem_nil, or_false] at hmem
      rcases hmem with h | rfl | rfl
      · exact hpercent h
      · exact hdigit _ (by omega) hc
      · exact hdigit _ (by omega) hc

/-- No separator is left in what a form writes. -/
theorem not_mem_formEncode {c : Char} (hc : c ∈ separators) (t : Text) : c ∉ formEncode t := by
  rw [formEncode, List.mem_flatMap]
  rintro ⟨b, -, hmem⟩
  exact not_mem_formByte hc b hmem

theorem cutAt_append_cons {c : Char} {front : Text} (h : c ∉ front) (back : Text) :
    Http.Url.cutAt c (front ++ c :: back) = (front, some back) := by
  have hfront : ∀ d ∈ front, (d != c) = true := fun d hd => by
    rw [bne_iff_ne]
    rintro rfl
    exact h hd
  rw [Http.Url.cutAt, List.dropWhile_append_of_pos hfront, List.takeWhile_append_of_pos hfront,
    List.dropWhile_cons_of_neg (by simp), List.takeWhile_cons_of_neg (by simp)]
  simp

/-- A pair as a form writes it. -/
abbrev formPair (pair : Text × Text) : Text := formEncode pair.1 ++ "=" ++ formEncode pair.2

theorem readPair?_formPair (pair : Text × Text) : readPair? (formPair pair) = some pair := by
  have hcut : Http.Url.cutAt '=' (formPair pair) =
      (formEncode pair.1, some (formEncode pair.2)) := by
    rw [formPair, List.append_assoc]
    exact cutAt_append_cons (not_mem_formEncode (by decide) pair.1) _
  simp only [readPair?, hcut, formDecode?_formEncode, Option.getD_some]
  rfl

theorem not_mem_formPair {c : Char} (hc : c ∈ separators) (hne : c ≠ '=') (pair : Text × Text) :
    c ∉ formPair pair := by
  have hequals : c ∉ ("=" : Text) := fun h => hne (List.mem_singleton.1 h)
  rw [formPair, List.mem_append, List.mem_append]
  exact not_or.2 ⟨not_or.2 ⟨not_mem_formEncode hc _, hequals⟩, not_mem_formEncode hc _⟩

theorem mapM_readPair?_map_formPair (pairs : List (Text × Text)) :
    (pairs.map formPair).mapM readPair? = some pairs := by
  induction pairs with
  | nil => rfl
  | cons pair pairs ih =>
    rw [List.map_cons, List.mapM_cons, readPair?_formPair, ih]
    rfl

/-- **The pairs that a form writes are read back**, in order. -/
theorem readPairs?_formPairs (pairs : List (Text × Text)) :
    readPairs? (formPairs pairs) = some pairs := by
  cases pairs with
  | nil => rfl
  | cons first pairs =>
    -- no pair has a separator in it, so the pieces are the pairs; none is empty, for each has its
    -- equals sign
    have hpieces : (formPairs (first :: pairs)).splitOn '&' = (first :: pairs).map formPair :=
      List.splitOn_intercalate '&' (by
        rintro _ hpiece
        obtain ⟨pair, -, rfl⟩ := List.mem_map.1 hpiece
        exact not_mem_formPair (by decide) (by decide) pair) (List.cons_ne_nil _ _)
    have hkept : ((first :: pairs).map formPair).filter (fun piece => !piece.isEmpty) =
        (first :: pairs).map formPair := by
      rw [List.filter_eq_self]
      rintro _ hpiece
      obtain ⟨pair, -, rfl⟩ := List.mem_map.1 hpiece
      simp [formPair]
    rw [readPairs?, hpieces, hkept, mapM_readPair?_map_formPair]

/-- Neither a space nor a question mark is in a query that a form writes. -/
theorem not_mem_formPairs {c : Char} (hc : c ∈ separators) (hequals : c ≠ '=') (hand : c ≠ '&')
    (pairs : List (Text × Text)) : c ∉ formPairs pairs := by
  refine not_mem_intercalate (fun h => hand (List.mem_singleton.1 h)) fun piece hpiece => ?_
  obtain ⟨pair, -, rfl⟩ := List.mem_map.1 hpiece
  exact not_mem_formPair hc hequals pair

end Text

/-! ## Request lines -/

/-- The query that a request line asks with: what stands between the first question mark and the
    space behind it. -/
def queryOf (line : Text) : Text :=
  let (_, behind) := Http.Url.cutAt '?' line
  (Http.Url.cutAt ' ' (behind.getD [])).1

theorem queryOf_requestLine {u : Http.Url} {q : Text} (hquery : u.query = some q)
    (hpath : '?' ∉ u.path) (hspace : ' ' ∉ q) : queryOf (Client.requestLine u) = q := by
  -- the first question mark of the line is the one in front of the query
  have hfront : '?' ∉ "GET " ++ u.path := by
    rw [List.mem_append]
    exact not_or.2 ⟨by decide, hpath⟩
  have hline : Client.requestLine u = ("GET " ++ u.path) ++ '?' :: (q ++ ' ' :: "HTTP/1.1") := by
    rw [Client.requestLine, Http.Url.target, hquery]
    simp [List.append_assoc]
  rw [queryOf, hline, Text.cutAt_append_cons hfront]
  simp only [Option.getD_some, Text.cutAt_append_cons hspace]

namespace Client

variable {c : Client} {r : Request} {s : Server} {line : Text}

/-- The only line that a fetch sends, if it sends one. -/
theorem received_fetch (c : Client) (r : Request) (s : Server) : (c.fetch r s).2.received =
    s.received ++ (((c.address? r).filter Http.Url.isWeb).map requestLine).toList := by
  have hurl := c.url_eq r
  cases haddress : c.address? r with
  | none =>
    rw [haddress] at hurl
    simp [fetch, hurl]
  | some u =>
    rw [haddress] at hurl
    simp only at hurl
    by_cases hweb : u.isWeb = true
    · rw [if_pos hweb] at hurl
      simp [fetch, hurl, Option.filter, hweb, Server.received_handle]
    · rw [if_neg hweb] at hurl
      simp [fetch, hurl, Option.filter, hweb]

/-- A fetch sends a line to the server. -/
def Sends (c : Client) (r : Request) (s : Server) (line : Text) : Prop :=
  (c.fetch r s).2.received = s.received ++ [line]

theorem sends_iff : c.Sends r s line ↔
    ∃ u, c.address? r = some u ∧ u.isWeb = true ∧ requestLine u = line := by
  rw [Sends, received_fetch, List.append_cancel_left_eq]
  cases haddress : c.address? r with
  | none => simp
  | some u => cases hweb : u.isWeb <;> simp [Option.filter, hweb]

end Client

/-! ## The public service -/

/-- What a request asks for beyond the account. -/
def Request.further (r : Request) : List (Text × Text) :=
  match r.family with
  | .recent => [("limit", Text.ofNat r.config.rows), ("extended", "1")]
  | .tracks | .artists | .albums =>
    [("limit", Text.ofNat r.config.rows), ("period", r.config.period.name)]
  | .userInfo => []

theorem Request.parameters_eq (r : Request) :
    r.parameters = (("user" : Text), r.user) :: r.further := by
  obtain ⟨f, user, config⟩ := r
  cases f <;> rfl

/-- What a request asks for is told by how it says it: the rows, and the period of a ranking. -/
theorem Request.config_of_further {r r' : Request} (hfamily : r.family = r'.family)
    (hfurther : r.further = r'.further) :
    (r.family ≠ .userInfo → r.config.rows = r'.config.rows) ∧
    (r.family ≠ .userInfo → r.family ≠ .recent → r.config.period = r'.config.period) := by
  unfold further at hfurther
  rw [← hfamily] at hfurther
  cases hcase : r.family <;> simp only [hcase, List.cons.injEq, Prod.mk.injEq] at hfurther
  case userInfo => simp
  case recent => exact ⟨fun _ => Text.ofNat_injective hfurther.1.2, fun _ h => absurd rfl h⟩
  all_goals
    exact ⟨fun _ => Text.ofNat_injective hfurther.1.2,
      fun _ _ => Period.name_injective hfurther.2.1.2⟩

theorem Family.method_injective : Family.method.Injective := by
  intro f g
  cases f <;> cases g <;> decide +kernel

namespace Client

/-- The address of the public service, read, with a query. -/
def publicAddress (query : Text) : Http.Url where
  scheme := "https"
  authority := some { host := .name "ws.audioscrobbler.com" }
  path := "/2.0/"
  query := some query

/-- A client of the public service. -/
abbrev ofKey (apiKey : Text) : Client := { apiKey, baseUrl := publicUrl }

/-- The parameters of a request to the public service, as its query. -/
def publicQuery (apiKey : Text) (r : Request) : Text :=
  Text.formPairs ((ofKey apiKey).parameters r)

/-- The address of a request to the public service, as a text. -/
def publicText (apiKey : Text) (r : Request) : Text := publicUrl ++ "?" ++ publicQuery apiKey r

variable {apiKey apiKey' : Text} {r r' : Request} {s s' : Server} {line : Text}

theorem address?_ofKey (apiKey : Text) (r : Request) :
    (ofKey apiKey).address? r = some (publicAddress (publicQuery apiKey r)) := by
  have hbase : (ofKey []).base? = some { publicAddress [] with query := none } := by decide +kernel
  have hsame : (ofKey apiKey).base? = some { publicAddress [] with query := none } := hbase
  rw [address?, hsame]
  rfl

theorem toText_publicAddress (query : Text) :
    (publicAddress query).toText = publicUrl ++ "?" ++ query := by
  have hpublic : publicUrl = "https" ++ ":" ++ (publicAddress query).hostPart ++ "/2.0/" := by
    show _ = "https" ++ ":" ++ (publicAddress []).hostPart ++ "/2.0/"
    decide +kernel
  rw [hpublic]
  simp [Http.Url.toText, Http.Url.target, publicAddress]

theorem isWeb_publicAddress (query : Text) : (publicAddress query).isWeb =
    decide ((publicUrl ++ "?" ++ query).byteLength ≤ Http.Url.maxSent) := by
  -- scheme and host do not depend on the query, so only the length is left
  have hscheme : (publicAddress query).isHttp = true := by
    show (("https" : Text) == ("http" : Text) || ("https" : Text) == ("https" : Text)) = true
    decide
  have hhost : (publicAddress query).authority.all
      (fun a => Http.Url.isSendableHost a.host) = true := by
    show (publicAddress []).authority.all (fun a => Http.Url.isSendableHost a.host) = true
    decide +kernel
  rw [Http.Url.isWeb, hscheme, hhost, toText_publicAddress, Bool.true_and, Bool.and_true]

/-- The line for a request to the public service, if the address is not too long. -/
theorem sends_ofKey_iff : (ofKey apiKey).Sends r s line ↔
    (publicText apiKey r).byteLength ≤ Http.Url.maxSent ∧
      requestLine (publicAddress (publicQuery apiKey r)) = line := by
  simp only [sends_iff, address?_ofKey, Option.some.injEq, exists_eq_left', isWeb_publicAddress,
    decide_eq_true_eq, publicText]

/-- No line is sent to an address that is too long. -/
theorem received_ofKey_of_lt (h : Http.Url.maxSent < (publicText apiKey r).byteLength) :
    ((ofKey apiKey).fetch r s).2.received = s.received := by
  have hweb : (publicAddress (publicQuery apiKey r)).isWeb = false := by
    rw [isWeb_publicAddress]
    exact decide_eq_false (Nat.not_le.2 h)
  rw [received_fetch, address?_ofKey, Option.filter_some, hweb]
  exact List.append_nil _

theorem readPairs?_of_sends (h : (ofKey apiKey).Sends r s line) :
    Text.readPairs? (queryOf line) = some ((ofKey apiKey).parameters r) := by
  obtain ⟨-, rfl⟩ := sends_ofKey_iff.1 h
  have hpath : '?' ∉ ("/2.0/" : Text) := by decide
  have hspace : ' ' ∉ publicQuery apiKey r :=
    Text.not_mem_formPairs (by decide) (by decide) (by decide) _
  rw [queryOf_requestLine rfl hpath hspace, publicQuery, Text.readPairs?_formPairs]

/-- The parameters of a request tell its family, its user, the key and what else it asks for. -/
theorem eq_of_parameters_eq {c c' : Client} (h : c.parameters r = c'.parameters r') :
    r.family = r'.family ∧ c.apiKey = c'.apiKey ∧ r.user = r'.user ∧ r.further = r'.further := by
  unfold parameters at h
  rw [r.parameters_eq, r'.parameters_eq] at h
  simp only [List.cons_append, List.nil_append, List.cons.injEq, Prod.mk.injEq, true_and] at h
  obtain ⟨hmethod, hkey, huser, hfurther⟩ := h
  exact ⟨Family.method_injective hmethod, hkey, huser, hfurther⟩

end Client

/-- **The parameters of a request are read back from its line.**

    * A fetch sends one line if the address is not too long, and otherwise none.
    * Read as a form, the query of the line is the method, the key, the format, the user and what
      else the request asks for, in this order and as they are.
    * Fetches that send the same line are for the same family, user and key, for as many rows if
      the rows are sent, and over the same period if that is sent.
    * The line is the first one that a client sends for the request, wherever it is sent on to. -/
theorem parameters_read_back (apiKey : Text) (r : Request) (s : Server) :
    ((Client.publicText apiKey r).byteLength ≤ Http.Url.maxSent →
      ∃ line, (Client.ofKey apiKey).Sends r s line) ∧
    (Http.Url.maxSent < (Client.publicText apiKey r).byteLength →
      ((Client.ofKey apiKey).fetch r s).2.received = s.received) ∧
    (∀ line, (Client.ofKey apiKey).Sends r s line →
      Text.readPairs? (queryOf line) = some (([("method", r.family.method), ("api_key", apiKey),
        ("format", "json"), ("user", r.user)] : List (Text × Text)) ++ r.further)) ∧
    (∀ line apiKey' r' s', (Client.ofKey apiKey).Sends r s line →
      (Client.ofKey apiKey').Sends r' s' line →
      r.family = r'.family ∧ r.user = r'.user ∧ apiKey = apiKey' ∧
        (r.family ≠ .userInfo → r.config.rows = r'.config.rows) ∧
        (r.family ≠ .userInfo → r.family ≠ .recent → r.config.period = r'.config.period)) ∧
    ((Client.ofKey apiKey).fetch r s).2.received <+:
      ((Client.ofKey apiKey).retrieve r s).2.received := by
  refine ⟨fun h => ⟨_, Client.sends_ofKey_iff.2 ⟨h, rfl⟩⟩, Client.received_ofKey_of_lt,
    fun line h => ?_, fun line apiKey' r' s' h h' => ?_, Client.received_fetch_prefix _ r s⟩
  · rw [Client.readPairs?_of_sends h, Client.parameters, r.parameters_eq]
    rfl
  · have hread := Client.readPairs?_of_sends h
    rw [Client.readPairs?_of_sends h'] at hread
    obtain ⟨hfamily, hkey, huser, hfurther⟩ :=
      Client.eq_of_parameters_eq (Option.some.inj hread).symm
    obtain ⟨hrows, hperiod⟩ := Request.config_of_further hfamily hfurther
    exact ⟨hfamily, huser, hkey, hrows, hperiod⟩

/-- A user whose name would add a parameter, break the line and end the query, if it were sent as it
    is. -/
theorem parameters_read_back_forged :
    let user : Text := "rj&limit=50 HTTP/1.1\nuser=a+b%26#ü"
    let r : Request := { family := .userInfo, user, config := {} }
    let pairs : List (Text × Text) := [("method", "user.getinfo"), ("api_key", "k&format=xml"),
      ("format", "json"), ("user", user)]
    ∃ line, (Client.ofKey "k&format=xml").Sends r { upcoming := [] } line ∧
      Text.readPairs? (queryOf line) = some pairs := by
  intro user r pairs
  obtain ⟨hsent, -, hread, -⟩ := parameters_read_back "k&format=xml" r { upcoming := [] }
  obtain ⟨line, hline⟩ := hsent (by decide +kernel)
  exact ⟨line, hline, hread line hline⟩

end ListeningCharts
