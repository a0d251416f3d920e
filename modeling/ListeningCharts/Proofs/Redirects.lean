import ListeningCharts.Client

/-! # Where replies send a client

    A reply may send a client on to another address. What is sent for an address is a trail of lines:
    the line for the address, and one for each address that a reply sends the client on to
    (`Client.Trail`).

    * **Trails**: a client follows a trail, and it gives up when it has been sent on too often
      (`Client.exists_trail_follow`).
    * **Direct servers**: without a reply that sends the client on, the trail is one line
      (`Client.Trail.eq_of_isDirect`), and what comes of it is what the reply says
      (`Client.retrieve_eq_fetch`).
-/

namespace ListeningCharts

/-! ## Servers -/

/-- Whether an exchange ends with a reply that sends the client on. -/
def Exchange.sendsOn : Exchange → Bool
  | .reply status _ _ location => Http.isRedirect status && location.isSome
  | .noReply => false

namespace Server

variable {s : Server}

/-- What a server does with the next request. -/
def next (s : Server) : Exchange := (s.upcoming.headD .noReply).settled

theorem handle_fst (s : Server) (line : Text) : (s.handle line).1 = s.next := by
  obtain ⟨upcoming, received⟩ := s
  cases upcoming <;> rfl

/-- Whatever a server answers, it has received the line. -/
theorem received_handle (s : Server) (line : Text) :
    (s.handle line).2.received = s.received ++ [line] := by
  obtain ⟨upcoming, received⟩ := s
  cases upcoming <;> rfl

theorem upcoming_handle (s : Server) (line : Text) :
    (s.handle line).2.upcoming = s.upcoming.tail := by
  obtain ⟨upcoming, received⟩ := s
  cases upcoming <;> rfl

/-- None of the replies of a server sends the client on. -/
def IsDirect (s : Server) : Prop := ∀ e ∈ s.upcoming, e.settled.sendsOn = false

instance (s : Server) : Decidable s.IsDirect :=
  inferInstanceAs (Decidable (∀ e ∈ s.upcoming, e.settled.sendsOn = false))

theorem IsDirect.next (h : s.IsDirect) : s.next.sendsOn = false := by
  obtain ⟨upcoming, received⟩ := s
  cases upcoming with
  | nil => rfl
  | cons e upcoming => exact h e List.mem_cons_self

theorem IsDirect.handle (h : s.IsDirect) (line : Text) : (s.handle line).2.IsDirect := by
  intro e he
  rw [upcoming_handle] at he
  exact h e (List.mem_of_mem_tail he)

end Server

namespace Client

variable {c : Client} {r : Request} {s s' : Server} {u v : Http.Url} {lines : List Text}

/-! ## Trails -/

theorem redirect?_eq_none {e : Exchange} (h : e.sendsOn = false) (u : Http.Url) :
    redirect? u e = none := by
  cases e with
  | noReply => rfl
  | reply status body missing location =>
    cases location with
    | none => rfl
    | some location =>
      have hstatus : Http.isRedirect status = false := by simpa [Exchange.sendsOn] using h
      simp [redirect?, hstatus]

/-- The lines that are sent for an address: its own, and then one for each address that the reply to
    the line before sends the client on to. -/
inductive Trail : Server → Http.Url → List Text → Server → Prop where
  | last {s : Server} {u : Http.Url} : Trail s u [requestLine u] (s.handle (requestLine u)).2
  | on {s s' : Server} {u v : Http.Url} {lines : List Text}
      (hredirect : redirect? u (s.handle (requestLine u)).1 = some v) (hweb : v.isWeb = true)
      (hrest : Trail (s.handle (requestLine u)).2 v lines s') :
      Trail s u (requestLine u :: lines) s'

/-- **A client follows a trail**, and it is sent on no more often than it may be. -/
theorem exists_trail_follow (f : Family) (redirects : Nat) (u : Http.Url) (s : Server) :
    ∃ lines, Trail s u lines (follow f redirects u s).2 ∧ lines.length ≤ redirects + 1 := by
  -- on the redirects that are left
  induction redirects generalizing u s with
  | zero =>
    refine ⟨[requestLine u], ?_, Nat.le_refl _⟩
    cases hredirect : redirect? u (s.handle (requestLine u)).1 with
    | none | some v =>
      simp only [follow, hredirect]
      exact .last
  | succ redirects ih =>
    cases hredirect : redirect? u (s.handle (requestLine u)).1 with
    | none =>
      rw [follow]
      simp only [hredirect]
      exact ⟨[requestLine u], .last, by simp⟩
    | some v =>
      rw [follow]
      simp only [hredirect]
      by_cases hweb : v.isWeb = true
      · rw [if_pos hweb]
        obtain ⟨lines, hrest, hlength⟩ := ih v (s.handle (requestLine u)).2
        exact ⟨requestLine u :: lines, .on hredirect hweb hrest, by simpa using hlength⟩
      · rw [if_neg hweb]
        exact ⟨[requestLine u], .last, by simp⟩

/-- The lines of a trail are what the server receives. -/
theorem Trail.received (h : Trail s u lines s') : s'.received = s.received ++ lines := by
  induction h with
  | last => exact Server.received_handle _ _
  | on hredirect hweb hrest ih => rw [ih, Server.received_handle, List.append_assoc]; rfl

/-- A trail starts with the line for its address. -/
theorem Trail.exists_cons (h : Trail s u lines s') : ∃ more, lines = requestLine u :: more := by
  cases h with
  | last => exact ⟨[], rfl⟩
  | on hredirect hweb hrest => exact ⟨_, rfl⟩

/-- It ends there if no reply sends the client on. -/
theorem Trail.eq_of_isDirect (h : Trail s u lines s') (hdirect : s.IsDirect) :
    lines = [requestLine u] ∧ s'.IsDirect := by
  cases h with
  | last => exact ⟨rfl, hdirect.handle _⟩
  | on hredirect hweb hrest =>
    rw [Server.handle_fst, redirect?_eq_none hdirect.next] at hredirect
    cases hredirect

/-! ## Requests -/

/-- **The reply to the line of a request is taken as it is**, unless it sends the client on. -/
theorem retrieve_eq_fetch (c : Client) (r : Request) (h : s.next.sendsOn = false) :
    c.retrieve r s = c.fetch r s := by
  unfold retrieve fetch
  cases hurl : c.url r with
  | error fault => rfl
  | ok u =>
    have hnone : redirect? u (s.handle (requestLine u)).1 = none := by
      rw [Server.handle_fst]
      exact redirect?_eq_none h u
    simp only [follow, hnone]

/-- The line of a request is the first one that is sent for it. -/
theorem received_fetch_prefix (c : Client) (r : Request) (s : Server) :
    (c.fetch r s).2.received <+: (c.retrieve r s).2.received := by
  unfold retrieve fetch
  cases hurl : c.url r with
  | error fault => exact List.prefix_rfl
  | ok u =>
    obtain ⟨lines, htrail, -⟩ := exists_trail_follow r.family maxRedirects u s
    obtain ⟨more, rfl⟩ := htrail.exists_cons
    simp only [htrail.received, Server.received_handle]
    exact ⟨more, by simp⟩

end Client

end ListeningCharts
