import ListeningCharts.Proofs.Forms
import ListeningCharts.Proofs.Redirects

/-! # Where the key is shown

    The key of a client stands in the query of every address that it asks. A reply does not bring it
    back, but an error that happens at the address is told with the address.

    * A fetch **breaks off** at its address if no request can be sent to it, or if the connection
      ends before a reply (`Client.breaksOff`).
    * **If it does not**, the outcome is the same for every key: it is told from the reply, or from
      the base address alone (`Client.fetch_eq_of_not_breaksOff`).
    * **If it does**, the message holds the key as a form writes it
      (`Client.exists_infix_report`).

    So two keys give the same text if and only if they are the same, or the fetch breaks off with
    neither of them (`key_shown_iff`).
-/

namespace ListeningCharts

/-! ## Addresses -/

namespace Http.Url

theorem exists_appendPairs_eq (u : Url) : ∃ lead : Text, ∀ pairs,
    u.appendPairs pairs = { u with query := some (lead ++ Text.formPairs pairs) } := by
  cases hquery : u.query with
  | none => exact ⟨[], fun pairs => by simp only [appendPairs, hquery, List.nil_append]⟩
  | some q =>
    cases q with
    | nil => exact ⟨[], fun pairs => by simp only [appendPairs, hquery, List.nil_append]⟩
    | cons c q => exact ⟨(c :: q) ++ "&", fun pairs => by simp only [appendPairs, hquery]⟩

/-- Pairs that are appended to an address stand between two parts of it. -/
theorem exists_toText_appendPairs (u : Url) : ∃ front back : Text, ∀ pairs,
    (u.appendPairs pairs).toText = front ++ (Text.formPairs pairs ++ back) := by
  obtain ⟨lead, happend⟩ := u.exists_appendPairs_eq
  obtain ⟨back, hback⟩ : ∃ back : Text, ∀ q,
      ({ u with query := some q } : Url).toText =
        u.scheme ++ ":" ++ u.hostPart ++ u.path ++ "?" ++ (q ++ back) := by
    cases u.fragment with
    | none => exact ⟨[], fun q => by simp [toText, target, hostPart]⟩
    | some fragment =>
      exact ⟨"#" ++ fragment, fun q => by simp [toText, target, hostPart]⟩
  refine ⟨u.scheme ++ ":" ++ u.hostPart ++ u.path ++ "?" ++ lead, back, fun pairs => ?_⟩
  rw [happend, hback]
  simp only [List.append_assoc]

end Http.Url

/-- Whether an exchange ends with a reply. -/
def Exchange.isReply : Exchange → Bool
  | .reply status _ _ _ => Http.isFinal status
  | .noReply => false

namespace Client

variable {c c' : Client} {r : Request} {s : Server} {u u' : Http.Url}

/-! ## The address of a request -/

/-- What the parameters of a request are appended to, if the base address has a host. -/
def base? (c : Client) : Option Http.Url :=
  ((Http.Url.parse? c.baseUrl).filter Http.Url.hasHost).map Http.Url.withoutCredentials

/-- The address with the parameters of a request, whether the request can be sent or not. -/
def address? (c : Client) (r : Request) : Option Http.Url :=
  c.base?.map fun u => u.appendPairs (c.parameters r)

theorem url_eq (c : Client) (r : Request) : c.url r =
    match c.address? r with
    | some u => if u.isWeb then .ok u else .error (.badAddress (some u.toText))
    | none => .error (.badAddress ((Http.Url.parse? c.baseUrl).map Http.Url.toText)) := by
  rw [url, address?, base?]
  cases Http.Url.parse? c.baseUrl with
  | none => rfl
  | some base => cases hhost : base.hasHost <;> simp [Option.filter, hhost]

/-- **The key stands in the address** as a form writes it, and what is around it does not depend on
    it. -/
theorem exists_toText_address (baseUrl : Text) (r : Request) : ∃ front back : Text,
    ∀ apiKey u, (Client.mk apiKey baseUrl).address? r = some u →
      u.toText = front ++ ("api_key=" ++ Text.formEncode apiKey ++ back) := by
  cases hbase : (Client.mk [] baseUrl).base? with
  | none =>
    refine ⟨[], [], fun apiKey u h => ?_⟩
    have hnone : (Client.mk apiKey baseUrl).base? = none := hbase
    rw [address?, hnone] at h
    cases h
  | some base =>
    obtain ⟨front, back, htext⟩ := base.exists_toText_appendPairs
    -- in front of the key stands the method, behind it the format and what the request asks for
    have hkey : ("api_key=" : Text) = Text.formEncode "api_key" ++ "=" := by decide +kernel
    refine ⟨front ++ (Text.formEncode "method" ++ "=" ++ Text.formEncode r.family.method ++ "&"),
      "&" ++ Text.formPairs (("format", "json") :: r.parameters) ++ back, fun apiKey u h => ?_⟩
    have hsome : (Client.mk apiKey baseUrl).base? = some base := hbase
    rw [address?, hsome] at h
    obtain rfl := Option.some.inj h
    rw [htext, hkey]
    show front ++ (Text.formPairs (("method", r.family.method) :: ("api_key", apiKey) ::
      ("format", "json") :: r.parameters) ++ back) = _
    rw [Text.formPairs_cons, Text.formPairs_cons]
    simp only [List.append_assoc]

/-- Different keys make different addresses. -/
theorem apiKey_eq_of_toText {apiKey apiKey' baseUrl : Text}
    (hu : (Client.mk apiKey baseUrl).address? r = some u)
    (hu' : (Client.mk apiKey' baseUrl).address? r = some u') (htext : u.toText = u'.toText) :
    apiKey = apiKey' := by
  obtain ⟨front, back, hkey⟩ := exists_toText_address baseUrl r
  rw [hkey apiKey u hu, hkey apiKey' u' hu'] at htext
  have hencoded := List.append_cancel_left htext
  rw [List.append_assoc, List.append_assoc] at hencoded
  exact Text.formEncode_injective (List.append_cancel_right (List.append_cancel_left hencoded))

/-! ## Outcomes -/

/-- Whether a fetch breaks off at its address: no request can be sent there, or none is replied
    to. -/
def breaksOff (c : Client) (r : Request) (s : Server) : Bool :=
  (c.address? r).any fun u => !(u.isWeb && s.next.isReply)

/-- What is read from a reply does not depend on the address. -/
theorem readExchange_of_isReply {e : Exchange} (h : e.isReply = true) (f : Family)
    (u u' : Http.Url) : readExchange f u e = readExchange f u' e := by
  cases e with
  | noReply => cases h
  | reply status body missing location =>
    have hfinal : Http.isFinal status = true := h
    simp only [readExchange, hfinal]
    rfl

theorem fetch_of_address (hu : c.address? r = some u) : (c.fetch r s).1 =
    if u.isWeb then readExchange r.family u s.next else .error (.badAddress (some u.toText)) := by
  have hurl := c.url_eq r
  rw [hu] at hurl
  simp only at hurl
  rw [fetch, hurl]
  by_cases hweb : u.isWeb = true
  · rw [if_pos hweb, if_pos hweb]
    exact congrArg (readExchange r.family u) (s.handle_fst _)
  · rw [if_neg hweb, if_neg hweb]

theorem fetch_of_no_address (hnone : c.address? r = none) : (c.fetch r s).1 =
    .error (.badAddress ((Http.Url.parse? c.baseUrl).map Http.Url.toText)) := by
  have hurl := c.url_eq r
  rw [hnone] at hurl
  rw [fetch, hurl]

/-- Whether there is an address does not depend on the key. -/
theorem address?_cases (apiKey apiKey' baseUrl : Text) (r : Request) :
    ((Client.mk apiKey baseUrl).address? r = none ∧ (Client.mk apiKey' baseUrl).address? r = none) ∨
    ∃ u u', (Client.mk apiKey baseUrl).address? r = some u ∧
      (Client.mk apiKey' baseUrl).address? r = some u' := by
  have hsame : (Client.mk apiKey' baseUrl).base? = (Client.mk apiKey baseUrl).base? := rfl
  unfold address?
  rw [hsame]
  cases (Client.mk apiKey baseUrl).base? with
  | none => exact .inl ⟨rfl, rfl⟩
  | some base => exact .inr ⟨_, _, rfl, rfl⟩

theorem breaksOff_of_address (hu : c.address? r = some u) :
    c.breaksOff r s = !(u.isWeb && s.next.isReply) := by
  rw [breaksOff, hu]
  rfl

theorem exists_address_of_breaksOff (h : c.breaksOff r s = true) : ∃ u, c.address? r = some u := by
  unfold breaksOff at h
  generalize c.address? r = address at h
  cases address with
  | none => cases h
  | some u => exact ⟨u, rfl⟩

/-- A fetch that does not break off reads its reply. -/
theorem fetch_of_not_breaksOff (hu : c.address? r = some u) (h : c.breaksOff r s = false) :
    (c.fetch r s).1 = readExchange r.family u s.next ∧ s.next.isReply = true := by
  rw [breaksOff_of_address hu, Bool.not_eq_false', Bool.and_eq_true] at h
  rw [fetch_of_address hu, if_pos h.1]
  exact ⟨rfl, h.2⟩

/-- **If neither fetch breaks off at its address, the outcomes are the same**, whatever the keys. -/
theorem fetch_eq_of_not_breaksOff {apiKey apiKey' baseUrl : Text}
    (h : (Client.mk apiKey baseUrl).breaksOff r s = false)
    (h' : (Client.mk apiKey' baseUrl).breaksOff r s = false) :
    ((Client.mk apiKey baseUrl).fetch r s).1 = ((Client.mk apiKey' baseUrl).fetch r s).1 := by
  rcases address?_cases apiKey apiKey' baseUrl r with ⟨hnone, hnone'⟩ | ⟨u, u', hu, hu'⟩
  · rw [fetch_of_no_address hnone, fetch_of_no_address hnone']
  · obtain ⟨hfetch, hreply⟩ := fetch_of_not_breaksOff hu h
    obtain ⟨hfetch', -⟩ := fetch_of_not_breaksOff hu' h'
    rw [hfetch, hfetch']
    exact readExchange_of_isReply hreply r.family u u'

/-! ## Messages -/

/-- The listing of a fetch, or the message for its failure. -/
def report (c : Client) (r : Request) (s : Server) : Except Text Listing :=
  (c.fetch r s).1.mapError fun fault => (Error.dataSource fault).message

/-- Why a fetch breaks off at its address, in words. -/
def breakReasons : List Text := ["builder error", "error sending request"]

/-- A fetch that breaks off at its address is told with the address. -/
theorem exists_report_of_breaksOff (hu : c.address? r = some u) (h : c.breaksOff r s = true) :
    ∃ reason ∈ breakReasons, c.report r s =
        .error ("failed to fetch listening data: " ++ (reason ++ forUrl u.toText)) := by
  rw [breaksOff_of_address hu, Bool.not_eq_true', Bool.and_eq_false_iff] at h
  rw [report, fetch_of_address hu]
  by_cases hweb : u.isWeb = true
  · refine ⟨"error sending request", by simp [breakReasons], ?_⟩
    have hreply : s.next.isReply = false := h.resolve_left (by simp [hweb])
    have hread : readExchange r.family u s.next = .error (.noReply u.toText) := by
      cases hnext : s.next with
      | noReply => rfl
      | reply status body missing location =>
        rw [hnext] at hreply
        have hfinal : Http.isFinal status = false := hreply
        simp only [readExchange, hfinal]
        rfl
    rw [if_pos hweb, hread]
    rfl
  · refine ⟨"builder error", by simp [breakReasons], ?_⟩
    rw [if_neg hweb]
    rfl

/-- What a reply brings that is no listing is about the service. -/
theorem eq_of_readReply_error {f : Family} {status : Nat} {body : Text} {fault : SourceFault}
    (h : readReply f status body = .error fault) :
    (∃ code message, fault = .refused f.method code message) ∨
      fault = .badStatus f.method status ∨ ∃ reason, fault = .malformed f.method reason := by
  unfold readReply at h
  generalize Response.failure? body = failure at h
  generalize Response.parse f body = parsed at h
  cases failure with
  | some failure => exact .inl ⟨failure.1, failure.2, (Except.error.inj h).symm⟩
  | none =>
    by_cases hsuccess : Http.isSuccess status = true
    · simp only [hsuccess, if_true] at h
      cases parsed with
      | ok listing => cases h
      | error reason => exact .inr (.inr ⟨reason, (Except.error.inj h).symm⟩)
    · simp only [hsuccess] at h
      exact .inr (.inl (Except.error.inj h).symm)

theorem head?_method (f : Family) (t : Text) : (f.method ++ t).head? = some 'u' := by
  cases f <;> rfl

/-- The message for it starts with the method, or with `unexpected`. -/
theorem head?_message_of_readReply {f : Family} {status : Nat} {body : Text} {fault : SourceFault}
    (h : readReply f status body = .error fault) : fault.message.head? = some 'u' := by
  rcases eq_of_readReply_error h with ⟨code, message, rfl⟩ | rfl | ⟨reason, rfl⟩
  · show (f.method ++ " failed with error " ++ Text.ofInt code ++ ": " ++ message).head? = _
    rw [List.append_assoc, List.append_assoc, List.append_assoc]
    exact head?_method f _
  · show (f.method ++ " failed with status " ++ Http.statusLine status).head? = _
    rw [List.append_assoc]
    exact head?_method f _
  · rfl

/-- An exchange with a reply fails with what the body says, or because the body breaks off. -/
theorem message_of_readExchange {e : Exchange} {f : Family} {fault : SourceFault}
    (hreply : e.isReply = true) (h : readExchange f u e = .error fault) :
    fault = .cutBody ∨ fault.message.head? = some 'u' := by
  cases e with
  | noReply => cases hreply
  | reply status body missing location =>
    have hfinal : Http.isFinal status = true := hreply
    unfold readExchange at h
    simp only [hfinal, Bool.not_true, Bool.false_eq_true, if_false] at h
    by_cases hbody : Http.hasBody status = true
    · rw [if_pos hbody] at h
      by_cases hwhole : missing = 0
      · rw [if_pos hwhole] at h
        exact .inr (head?_message_of_readReply h)
      · rw [if_neg hwhole] at h
        exact .inl (Except.error.inj h).symm
    · rw [if_neg hbody] at h
      exact .inr (head?_message_of_readReply h)

theorem forUrl_injective {t t' : Text} (h : forUrl t = forUrl t') : t = t' := by
  unfold forUrl at h
  rw [List.append_assoc, List.append_assoc] at h
  exact List.append_cancel_right (List.append_cancel_left h)

/-- The address of a fetch that breaks off can be read off its message. -/
theorem eq_of_reason_append_forUrl {reason reason' t t' : Text} (hreason : reason ∈ breakReasons)
    (hreason' : reason' ∈ breakReasons) (h : reason ++ forUrl t = reason' ++ forUrl t') :
    t = t' := by
  -- different reasons differ in their first character
  have hheads := congrArg List.head? h
  simp only [breakReasons, List.mem_cons, List.not_mem_nil, or_false] at hreason hreason'
  rcases hreason with rfl | rfl <;> rcases hreason' with rfl | rfl
  · exact forUrl_injective (List.append_cancel_left h)
  · exact absurd (Option.some.inj hheads) (by decide)
  · exact absurd (Option.some.inj hheads) (by decide)
  · exact forUrl_injective (List.append_cancel_left h)

/-- A reply brings no message of a fetch that breaks off. -/
theorem reason_append_ne_message {e : Exchange} {f : Family} {fault : SourceFault}
    {reason : Text} (hreason : reason ∈ breakReasons) (hreply : e.isReply = true)
    (h : readExchange f u e = .error fault) (t : Text) : reason ++ t ≠ fault.message := by
  intro heq
  simp only [breakReasons, List.mem_cons, List.not_mem_nil, or_false] at hreason
  rcases message_of_readExchange hreply h with rfl | hhead
  · -- the seventh character parts the reasons from "error decoding response body"
    have hseventh : (reason ++ t)[6]? = some 'd' := congrArg (·[6]?) heq
    rcases hreason with rfl | rfl
    · exact absurd (Option.some.inj hseventh) (by decide)
    · exact absurd (Option.some.inj hseventh) (by decide)
  · rw [← heq] at hhead
    rcases hreason with rfl | rfl
    · exact absurd (Option.some.inj hhead) (by decide)
    · exact absurd (Option.some.inj hhead) (by decide)

/-- **A fetch that breaks off and one with another key are told apart.** -/
theorem report_ne_of_breaksOff {apiKey apiKey' baseUrl : Text} (hne : apiKey ≠ apiKey')
    (h : (Client.mk apiKey baseUrl).breaksOff r s = true) :
    (Client.mk apiKey baseUrl).report r s ≠ (Client.mk apiKey' baseUrl).report r s := by
  intro heq
  rcases address?_cases apiKey apiKey' baseUrl r with ⟨hnone, -⟩ | ⟨u, u', hu, hu'⟩
  · rw [breaksOff, hnone] at h
    cases h
  · obtain ⟨reason, hreason, hreport⟩ := exists_report_of_breaksOff hu h
    rw [hreport] at heq
    cases hother : (Client.mk apiKey' baseUrl).breaksOff r s with
    | true =>
      -- both messages end with an address, and these are different
      obtain ⟨reason', hreason', hreport'⟩ := exists_report_of_breaksOff hu' hother
      rw [hreport'] at heq
      have htail := List.append_cancel_left (Except.error.inj heq)
      exact hne (apiKey_eq_of_toText hu hu' (eq_of_reason_append_forUrl hreason hreason' htail))
    | false =>
      -- the other message, if there is one, is about a reply
      obtain ⟨hfetch, hreply⟩ := fetch_of_not_breaksOff hu' hother
      rw [report, hfetch] at heq
      cases hread : readExchange r.family u' s.next with
      | ok listing =>
        rw [hread] at heq
        cases heq
      | error fault =>
        rw [hread] at heq
        exact reason_append_ne_message hreason hreply hread _
          (List.append_cancel_left (Except.error.inj heq))

/-- The message of a fetch that breaks off holds the key. -/
theorem exists_infix_report {apiKey baseUrl : Text}
    (h : (Client.mk apiKey baseUrl).breaksOff r s = true) :
    ∃ message, (Client.mk apiKey baseUrl).report r s = .error message ∧
      ("api_key=" : Text) ++ Text.formEncode apiKey <:+: message := by
  -- the key is a part of the address, and the address is a part of the message
  obtain ⟨u, hu⟩ := exists_address_of_breaksOff h
  obtain ⟨front, back, hkey⟩ := exists_toText_address baseUrl r
  obtain ⟨reason, -, hreport⟩ := exists_report_of_breaksOff hu h
  have hurl : ("api_key=" : Text) ++ Text.formEncode apiKey <:+: u.toText := by
    rw [hkey apiKey u hu]
    exact ⟨front, back, List.append_assoc _ _ _⟩
  have hforUrl : u.toText <:+: forUrl u.toText := List.infix_append _ _ _
  have hreason : forUrl u.toText <:+: reason ++ forUrl u.toText :=
    (List.suffix_append reason (forUrl u.toText)).isInfix
  have hmessage := (List.suffix_append ("failed to fetch listening data: " : Text)
    (reason ++ forUrl u.toText)).isInfix
  exact ⟨_, hreport, ((hurl.trans hforUrl).trans hreason).trans hmessage⟩

/-- Two keys are told apart if and only if a fetch with one of them breaks off. -/
theorem report_eq_iff {apiKey apiKey' baseUrl : Text} :
    (Client.mk apiKey baseUrl).report r s = (Client.mk apiKey' baseUrl).report r s ↔
      apiKey = apiKey' ∨ ((Client.mk apiKey baseUrl).breaksOff r s = false ∧
        (Client.mk apiKey' baseUrl).breaksOff r s = false) := by
  constructor
  · intro hreport
    by_cases hkeys : apiKey = apiKey'
    · exact .inl hkeys
    · right
      constructor
      · rw [← Bool.not_eq_true]
        intro h
        exact report_ne_of_breaksOff hkeys h hreport
      · rw [← Bool.not_eq_true]
        intro h
        exact report_ne_of_breaksOff (Ne.symm hkeys) h hreport.symm
  · rintro (rfl | ⟨h, h'⟩)
    · rfl
    · rw [report, report, fetch_eq_of_not_breaksOff h h']

end Client

/-- **Where the key of a client is shown**.

    * The text for logs does not depend on the key.
    * An outcome does not either, if no fetch breaks off at its address.
    * The message of a fetch that does holds the key as a form writes it. So two keys are told apart
      if and only if they are different and one of the fetches breaks off.
    * All of this is about the records that a client retrieves, unless a reply sends it on. -/
theorem key_shown_iff (apiKey apiKey' baseUrl : Text) (r : Request) (s : Server) :
    (Client.mk apiKey baseUrl).debugText = (Client.mk apiKey' baseUrl).debugText ∧
    ((Client.mk apiKey baseUrl).breaksOff r s = false →
      (Client.mk apiKey' baseUrl).breaksOff r s = false →
      ((Client.mk apiKey baseUrl).fetch r s).1 = ((Client.mk apiKey' baseUrl).fetch r s).1) ∧
    ((Client.mk apiKey baseUrl).breaksOff r s = true →
      ∃ message, (Client.mk apiKey baseUrl).report r s = .error message ∧
        ("api_key=" : Text) ++ Text.formEncode apiKey <:+: message) ∧
    ((Client.mk apiKey baseUrl).report r s = (Client.mk apiKey' baseUrl).report r s ↔
      apiKey = apiKey' ∨ ((Client.mk apiKey baseUrl).breaksOff r s = false ∧
        (Client.mk apiKey' baseUrl).breaksOff r s = false)) ∧
    (s.next.sendsOn = false →
      (Client.mk apiKey baseUrl).retrieve r s = (Client.mk apiKey baseUrl).fetch r s ∧
      (Client.mk apiKey' baseUrl).retrieve r s = (Client.mk apiKey' baseUrl).fetch r s) :=
  ⟨rfl, Client.fetch_eq_of_not_breaksOff, Client.exists_infix_report, Client.report_eq_iff,
    fun hdirect => ⟨Client.retrieve_eq_fetch _ r hdirect, Client.retrieve_eq_fetch _ r hdirect⟩⟩

/-- A connection that the server closes shows the key, a reply with a status that is no success does
    not. -/
theorem key_shown_iff_closed_refused :
    let c : Client := { apiKey := "SECRETKEY", baseUrl := "http://127.0.0.1:8080/" }
    let c' : Client := { apiKey := "OTHERKEY", baseUrl := "http://127.0.0.1:8080/" }
    let r : Request := { family := .tracks, user := "rj", config := {} }
    let closed : Server := { upcoming := [.noReply] }
    let refused : Server := { upcoming := [.reply 500 [] 0] }
    (c.breaksOff r closed = true ∧ ∃ message, c.report r closed = .error message ∧
      "api_key=SECRETKEY" <:+: message) ∧
    (c.breaksOff r refused = false ∧ c'.breaksOff r refused = false ∧
      (c.fetch r refused).1 = (c'.fetch r refused).1) := by
  intro c c' r closed refused
  have hclosed : c.breaksOff r closed = true := by decide +kernel
  have hrefused : c.breaksOff r refused = false := by decide +kernel
  have hrefused' : c'.breaksOff r refused = false := by decide +kernel
  obtain ⟨-, -, hshown, -⟩ :=
    key_shown_iff "SECRETKEY" "OTHERKEY" "http://127.0.0.1:8080/" r closed
  obtain ⟨-, hhidden, -, -⟩ :=
    key_shown_iff "SECRETKEY" "OTHERKEY" "http://127.0.0.1:8080/" r refused
  exact ⟨⟨hclosed, hshown hclosed⟩, hrefused, hrefused', hhidden hrefused hrefused'⟩

/-- The outcome of a fetch is not the same for every key. -/
theorem not_forall_fetch_eq :
    ¬ ∀ (apiKey apiKey' baseUrl : Text) (r : Request) (s : Server),
      ((Client.mk apiKey baseUrl).fetch r s).1 = ((Client.mk apiKey' baseUrl).fetch r s).1 ∧
      (Client.mk apiKey baseUrl).report r s = (Client.mk apiKey' baseUrl).report r s ∧
      (Client.mk apiKey baseUrl).debugText = (Client.mk apiKey' baseUrl).debugText := by
  intro h
  have hreport := (h "SECRETKEY" "OTHERKEY" "http://127.0.0.1:8080/"
    { family := .tracks, user := "rj", config := {} } { upcoming := [.noReply] }).2.1
  exact Client.report_ne_of_breaksOff (by decide) (by decide +kernel) hreport

end ListeningCharts
