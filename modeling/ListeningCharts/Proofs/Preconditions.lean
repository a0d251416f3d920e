import ListeningCharts.Proofs.Crossing
import ListeningCharts.Proofs.FileEffects
import ListeningCharts.Proofs.Queries
import ListeningCharts.Proofs.Requests

/-! # What comes before a request

    An update reads its settings, its pattern for dates and its document, and looks for a user and a
    key, before it asks the service for anything. So whatever the service receives, it receives of
    an update for which all of these are in order.

    * **Settings**: those of the project are the ones in the first of its settings files, which has
      to be valid on its own, or the default ones (`Settings.loadOrDefault_eq_ok_iff`).
    * **Plans**: an update that gets as far as a plan, or finds nothing to do, has everything in
      order (`Cli.exists_inOrder_of_plan`).
    * **Lines**: an update sends the lines of its requests, for its user and with its key, none of
      which asks for more rows than allowed, and behind each of them those for where the replies send
      it on to (`Client.Sent`, `sent_computeUpdate`). If it succeeds although there are regions, it has
      sent a line (`length_lt_of_computeUpdate`).
-/

namespace ListeningCharts

/-! ## Settings -/

namespace Settings

/-- Nothing in the settings is empty that must not be. -/
structure IsValid (s : Settings) : Prop where
  readme : s.readme ≠ []
  user : ∀ user, s.user = some user → user.allBlank = false
  locale : s.locale.allBlank = false

theorem validate_eq_ok_iff {s s' : Settings} : s.validate = .ok s' ↔ s = s' ∧ s.IsValid := by
  unfold validate
  constructor
  · intro h
    split at h
    · cases h
    · next hreadme =>
      split at h
      · cases h
      · next huser =>
        split at h
        · cases h
        · next hlocale =>
          cases h
          refine ⟨rfl, by simpa using hreadme, fun user hsome => ?_, by simpa using hlocale⟩
          simpa [hsome] using huser
  · intro h
    obtain ⟨rfl, hvalid⟩ := h
    have huser : ¬ s.user.any Text.allBlank = true := by
      cases hsome : s.user with
      | none => simp
      | some user => simpa using hvalid.user user hsome
    rw [if_neg (by simpa using hvalid.readme), if_neg huser, if_neg (by simp [hvalid.locale])]

/-- The settings that a project at a root has, by its files. -/
inductive SetAt (t : FileTree) (root : Text) : Settings → Prop where
  /-- None of the candidates is a file. -/
  | unset (hnone : ∀ c ∈ candidates, t.isFile (FileTree.join root c) = false) : SetAt t root {}
  /-- The first of the candidates that is a file is a table of settings, and they are valid. -/
  | set {front back : List Text} {c content : Text} {entries : Toml.Entries} {s : Settings}
      (hcandidates : candidates = front ++ c :: back)
      (hfront : ∀ d ∈ front, t.isFile (FileTree.join root d) = false)
      (hfile : t.isFile (FileTree.join root c) = true)
      (hread : t.readText (FileTree.join root c) = .ok content)
      (htable : Toml.parse? content = some entries) (hentries : ofEntries? entries = some s)
      (hvalid : s.IsValid) : SetAt t root s

variable {t : FileTree} {root : Text} {s : Settings}

theorem parse_eq_ok_iff {content : Text} : parse content = .ok s ↔
    ∃ entries, Toml.parse? content = some entries ∧ ofEntries? entries = some s ∧ s.IsValid := by
  unfold parse
  constructor
  · intro h
    split at h
    · cases h
    · next s' hs' =>
      obtain ⟨rfl, hvalid⟩ := validate_eq_ok_iff.1 h
      obtain ⟨entries, htable, hentries⟩ := Option.bind_eq_some_iff.1 hs'
      exact ⟨entries, htable, hentries, hvalid⟩
  · intro h
    obtain ⟨entries, htable, hentries, hvalid⟩ := h
    rw [htable, Option.bind_some, hentries]
    exact validate_eq_ok_iff.2 ⟨rfl, hvalid⟩

/-- **The settings of a project are those of its first settings file**, or the default ones. -/
theorem loadOrDefault_eq_ok_iff : loadOrDefault t root = .ok s ↔ s.SetAt t root := by
  unfold loadOrDefault load
  cases hcandidate : candidate? t root with
  | none =>
    have hnone := Cli.candidate?_eq_none_iff.1 hcandidate
    constructor
    · intro h
      cases h
      exact .unset hnone
    · intro h
      cases h with
      | unset _ => rfl
      | set hcandidates _ hfile =>
        rw [hnone _ (by simp [hcandidates])] at hfile
        cases hfile
  | some c =>
    obtain ⟨hfile, front, back, hcandidates, hfront⟩ := List.find?_eq_some_iff_append.1 hcandidate
    have hfront : ∀ d ∈ front, t.isFile (FileTree.join root d) = false := by simpa using hfront
    constructor
    · intro h
      obtain ⟨s?, hload, rfl⟩ := map_eq_ok_iff.1 h
      cases hread : t.readText (FileTree.join root c) with
      | error fault => simp [hread] at hload
      | ok content =>
        simp only [hread] at hload
        obtain ⟨s, hparse, rfl⟩ := map_eq_ok_iff.1 hload
        obtain ⟨entries, htable, hentries, hvalid⟩ := parse_eq_ok_iff.1 hparse
        exact .set hcandidates hfront hfile hread htable hentries hvalid
    · intro h
      cases h with
      | unset hnone =>
        rw [Cli.candidate?_eq_none_iff.2 hnone] at hcandidate
        cases hcandidate
      | @set front' back' c' content entries _ hcandidates' hfront' hfile' hread htable hentries hvalid =>
        -- the first candidate that is a file is the one that was found
        have hfound : candidate? t root = some c' := by
          apply List.find?_eq_some_iff_append.2
          exact ⟨hfile', front', back', hcandidates', by simpa using hfront'⟩
        obtain rfl := Option.some.inj (hcandidate.symm.trans hfound)
        simp only [hread]
        rw [parse_eq_ok_iff.2 ⟨entries, htable, hentries, hvalid⟩]
        rfl

end Settings

/-! ## What a client sends -/

namespace Client

/-- The line of a request for a user, for no more rows than allowed and at least one. -/
def IsBound (c : Client) (user line : Text) : Prop :=
  ∃ (q : Request) (s : Server), c.Sends q s line ∧ q.user = user ∧ 1 ≤ q.config.rows ∧
    q.config.rows ≤ 50

/-- Between two states a server receives these lines: for some requests for a user, for no more rows
    than allowed, the line of the request, and then the lines for where the replies send the client
    on to. -/
inductive Sent (c : Client) (user : Text) : Server → List Text → Server → Prop where
  | nil {s : Server} : Sent c user s [] s
  | cons {s s' s'' : Server} {u : Http.Url} {lines more : List Text}
      (hbound : c.IsBound user (requestLine u)) (htrail : Trail s u lines s')
      (hlength : lines.length ≤ maxRedirects + 1) (hmore : Sent c user s' more s'') :
      Sent c user s (lines ++ more) s''

variable {τ : Type} {c : Client} {user : Text} {s s' s'' : Server} {lines more : List Text}

theorem Sent.trans (h : c.Sent user s lines s') (h' : c.Sent user s' more s'') :
    c.Sent user s (lines ++ more) s'' := by
  induction h with
  | nil => exact h'
  | cons hbound htrail hlength hmore ih =>
    rw [List.append_assoc]
    exact .cons hbound htrail hlength (ih h')

theorem Sent.received (h : c.Sent user s lines s') : s'.received = s.received ++ lines := by
  induction h with
  | nil => exact (List.append_nil _).symm
  | cons hbound htrail hlength hmore ih => rw [ih, htrail.received, List.append_assoc]

/-- What was received is never forgotten. -/
theorem Sent.length_le (h : c.Sent user s lines s') : s.received.length ≤ s'.received.length := by
  rw [h.received, List.length_append]
  omega

/-- **Without a reply that sends the client on**, every line is that of a request. -/
theorem Sent.isBound_of_isDirect (h : c.Sent user s lines s') (hdirect : s.IsDirect) :
    ∀ line ∈ lines, c.IsBound user line := by
  induction h with
  | nil => simp
  | cons hbound htrail hlength hmore ih =>
    obtain ⟨rfl, hdirect'⟩ := htrail.eq_of_isDirect hdirect
    exact List.forall_mem_append.2 ⟨List.forall_mem_singleton.2 hbound, ih hdirect'⟩

/-- A run sends lines if each of its steps does. -/
theorem Sent.of_takes {β : Type} {run : Run (τ × Server) β}
    (h : Run.Takes (fun w w' : τ × Server => ∃ lines, c.Sent user w.2 lines w'.2) run)
    (w : τ × Server) : ∃ lines, c.Sent user w.2 lines (run w).2.2 := by
  have hsteps := h w
  generalize (run w).2 = w' at hsteps ⊢
  induction hsteps with
  | refl => exact ⟨[], .nil⟩
  | tail _ hstep ih =>
    obtain ⟨lines, hlines⟩ := ih
    obtain ⟨more, hmore⟩ := hstep
    exact ⟨lines ++ more, hlines.trans hmore⟩

/-- The line for the address of a request is sent for it. -/
theorem isBound_of_url {q : Request} {u : Http.Url} (hurl : c.url q = .ok u)
    (hrows : 1 ≤ q.config.rows ∧ q.config.rows ≤ 50) : c.IsBound q.user (requestLine u) := by
  refine ⟨q, { upcoming := [] }, ?_, rfl, hrows⟩
  rw [c.url_eq] at hurl
  split at hurl
  · next v haddress =>
    split at hurl
    · next hweb =>
      cases hurl
      exact sends_iff.2 ⟨u, haddress, hweb, rfl⟩
    · cases hurl
  · cases hurl

/-- A client sends the line of a request and those that it is sent on to, or none. -/
theorem sent_retrieve (c : Client) {q : Request} (hrows : 1 ≤ q.config.rows ∧ q.config.rows ≤ 50)
    (s : Server) : ∃ lines, c.Sent q.user s lines (c.retrieve q s).2 := by
  unfold retrieve
  cases hurl : c.url q with
  | error fault => exact ⟨[], .nil⟩
  | ok u =>
    obtain ⟨lines, htrail, hlength⟩ := exists_trail_follow q.family maxRedirects u s
    exact ⟨lines ++ [], .cons (isBound_of_url hurl hrows) htrail hlength .nil⟩

/-- A client that retrieves records has sent a line. -/
theorem length_lt_of_retrieve {q : Request} {listing : Listing}
    (h : (c.retrieve q s).1 = .ok listing) :
    s.received.length < (c.retrieve q s).2.received.length := by
  unfold retrieve at h ⊢
  cases hurl : c.url q with
  | error fault =>
    rw [hurl] at h
    cases h
  | ok u =>
    obtain ⟨lines, htrail, -⟩ := exists_trail_follow q.family maxRedirects u s
    obtain ⟨more, rfl⟩ := htrail.exists_cons
    simp only [htrail.received, List.length_append, List.length_cons]
    omega

end Client

section Update

variable {τ : Type} {r : Region} {options : UpdateOptions}

/-- A region that a scan finds asks for a number of rows within the bounds. -/
theorem sent_fetch_of_scan {f : Family} {working : Text} {regions : List Region} (c : Client)
    (options : UpdateOptions) (hscan : scan f working = .ok regions) (hr : r ∈ regions)
    (w : τ × Server) :
    ∃ lines, c.Sent options.user w.2 lines (fetch c.source options r w).2.2 :=
  c.sent_retrieve (q := r.request options)
    (Marker.rows_of_classify (isShaped_of_scan hscan r hr).opens) w.2

/-- **An update sends lines for its user only**, and those that replies send the client on to,
    however it ends. -/
theorem sent_computeUpdate (c : Client) (options : UpdateOptions) (document : Text)
    (w : τ × Server) :
    ∃ lines, c.Sent options.user w.2 lines (computeUpdate c.source options document w).2.2 := by
  apply Client.Sent.of_takes
  apply takes_computeUpdate_of_fetch
  intro f working regions hscan r hr w
  exact .single (sent_fetch_of_scan c options hscan hr w)

/-- A fetch that succeeds has sent its line. -/
theorem length_lt_of_fetch {c : Client} {w w' : τ × Server} {listing : Listing}
    (h : fetch c.source options r w = (.ok listing, w')) :
    w.2.received.length < w'.2.received.length := by
  have hretrieve : (c.retrieve (r.request options) w.2).1.mapError Error.dataSource = .ok listing :=
    congrArg Prod.fst h
  have hstate : (c.retrieve (r.request options) w.2).2 = w'.2 := congrArg (fun out => out.2.2) h
  rw [← hstate]
  exact Client.length_lt_of_retrieve (mapError_eq_ok_iff.1 hretrieve)

/-- **An update that succeeds has sent a line** if there was a region to render: the first region of
    the first family that has one is fetched in the document as it was. -/
theorem length_lt_of_computeUpdate {c : Client} {document : Text}
    {regions : List Region} (hscan : scanAll document = .ok regions) (hne : regions ≠ [])
    {w w' : τ × Server} {u : DocumentUpdate}
    (h : computeUpdate c.source options document w = (.ok u, w')) :
    w.2.received.length < w'.2.received.length := by
  obtain ⟨found, hfound, rfl⟩ := scanAll_eq_ok_iff.1 hscan
  obtain ⟨first, others, hregions⟩ := List.exists_cons_of_ne_nil hne
  obtain ⟨skipped, f, tail, more, hall, hskipped, hf, -⟩ := exists_of_flatMap_eq_cons hregions
  obtain ⟨-, updated, updates, -, hpasses, -⟩ := computeUpdate_eq_ok_iff.1 h
  have hnone : ∀ g ∈ skipped, scan g document = .ok [] := by
    intro g hg
    rw [hfound g, hskipped g hg]
  rw [hall, updateFamilies_of_nil hnone] at hpasses
  obtain ⟨next, reports, t, rest, hpass, hmore, -⟩ := updateFamilies_cons_eq_ok_iff.1 hpasses
  obtain ⟨_, listings, hscan', hlistings, -, -⟩ := updateFamily_eq_ok_iff.1 hpass
  obtain rfl := Except.ok.inj ((hfound f).symm.trans hscan')
  have hrows : ∀ r ∈ found f, ∀ w : τ × Server,
      ∃ lines, c.Sent options.user w.2 lines (fetch c.source options r w).2.2 :=
    fun r hr w => sent_fetch_of_scan c options (hfound f) hr w
  rw [hf] at hlistings hrows
  obtain ⟨listing, t₀, _, hfetch, htail, -⟩ := Run.mapM_cons_eq_ok_iff.1 hlistings
  -- the first fetch sends its line, and what follows it takes nothing back
  have hfirst := length_lt_of_fetch hfetch
  obtain ⟨_, htaken⟩ : ∃ lines,
      c.Sent options.user t₀.2 lines (tail.mapM (fetch c.source options) t₀).2.2 := by
    apply Client.Sent.of_takes
    apply Run.Takes.mapM
    intro r hr w
    exact .single (hrows r (List.mem_cons_of_mem _ hr) w)
  obtain ⟨_, hpassed⟩ : ∃ lines,
      c.Sent options.user t.2 lines (updateFamilies c.source options more next t).2.2 := by
    apply Client.Sent.of_takes
    apply takes_updateFamilies_of_fetch
    intro f working regions hscan r hr w
    exact .single (sent_fetch_of_scan c options hscan hr w)
  rw [htail] at htaken
  rw [hmore] at hpassed
  exact hfirst.trans_le (htaken.length_le.trans hpassed.length_le)

end Update

namespace Cli

/-! ## Plans -/

/-- The root of the project by a command line: as it is given inside the task, or outside of it, and
    otherwise the current directory. -/
def rootOf (t : FileTree) (outer inner : Given) : Text :=
  ((inner.value? .path).or (outer.value? .path)).getD (pathOf t.current)

/-- The settings of a project with what is given for an update on top of them. -/
def effective (env : Environment) (outer inner : Given) (s : Settings) : Settings where
  user := ((inner.value? .user).or env.user).or s.user
  readme := ((inner.value? .readme).or (outer.value? .readme)).getD s.readme
  locale := (inner.value? .locale).getD s.locale
  dateFormat := (inner.value? .dateFormat).getD s.dateFormat
  showTitle := s.showTitle && !inner.has .noTitle

/-- The key that is given for an update. No file has a part in it. -/
def keyOf (env : Environment) (inner : Given) : Option Text := (inner.value? .apiKey).or env.apiKey

/-- An update is in order: the settings `s` are those of the project with what is given on top, their
    pattern for dates can be followed, and the document that they name can be read and has these
    regions. -/
structure InOrder (env : Environment) (t : FileTree) (outer inner : Given) (s : Settings)
    (document : Text) (regions : List Region) : Prop where
  settled : ∃ base : Settings, base.SetAt t (rootOf t outer inner) ∧
    s = effective env outer inner base
  valid : s.IsValid
  dates : ∃ pattern, DatePattern.parse s.dateFormat = .ok pattern
  read : t.readText (FileTree.join (rootOf t outer inner) s.readme) = .ok document
  scanned : scanAll document = .ok regions

/-- The invocation that is an update by a command line. -/
def Invocation.ofUpdate (env : Environment) (outer inner : Given) : Invocation where
  command := some (.update (UpdateArguments.ofGiven inner env))
  path := (inner.value? .path).or (outer.value? .path)
  readme := (inner.value? .readme).or (outer.value? .readme)
  verbose := inner.has .verbose || outer.has .verbose
  colors := !(inner.has .noColor || outer.has .noColor || env.noColor)

variable {env : Environment} {t : FileTree} {outer inner : Given} {readme : Text}

theorem settings_ofUpdate_eq_ok_iff {s : Settings} :
    (Invocation.ofUpdate env outer inner).settings t = .ok s ↔
      (∃ base : Settings, base.SetAt t (rootOf t outer inner) ∧
        s = effective env outer inner base) ∧ s.IsValid := by
  unfold Invocation.settings
  rw [bind_eq_ok_iff]
  constructor
  · intro h
    obtain ⟨base, hload, hs⟩ := h
    obtain ⟨rfl, hvalid⟩ := Settings.validate_eq_ok_iff.1 hs
    exact ⟨⟨base, Settings.loadOrDefault_eq_ok_iff.1 hload, rfl⟩, hvalid⟩
  · intro h
    obtain ⟨⟨base, hbase, rfl⟩, hvalid⟩ := h
    exact ⟨base, Settings.loadOrDefault_eq_ok_iff.2 hbase,
      Settings.validate_eq_ok_iff.2 ⟨rfl, hvalid⟩⟩

theorem formats_eq_ok_iff {s : Settings} {formats : Formats} : s.formats = .ok formats ↔
    ∃ pattern, DatePattern.parse s.dateFormat = .ok pattern ∧
      formats = { numbers := .ofLocale s.locale, dates := pattern } := by
  unfold Settings.formats Formats.ofLocale
  rw [mapError_eq_ok_iff, bind_eq_ok_iff]
  constructor
  · intro h
    obtain ⟨pattern, hpattern, h⟩ := h
    cases h
    exact ⟨pattern, hpattern, rfl⟩
  · intro h
    obtain ⟨pattern, hpattern, rfl⟩ := h
    exact ⟨pattern, hpattern, rfl⟩

theorem readDocument_eq_ok_iff {root document : Text} : readDocument t root readme = .ok document ↔
    t.readText (FileTree.join root readme) = .ok document := by
  unfold readDocument
  exact mapError_eq_ok_iff

/-- An update has a plan, or nothing to do, only if all is in order. -/
theorem exists_inOrder_of_plan {plan? : Option Plan}
    (h : (Invocation.ofUpdate env outer inner).plan (UpdateArguments.ofGiven inner env) t =
      .ok (readme, plan?)) : ∃ s document regions, InOrder env t outer inner s document regions ∧
      readme = s.readme ∧
      ((plan? = none ∧ regions = []) ∨
        ∃ user key plan, plan? = some plan ∧ regions ≠ [] ∧ s.user = some user ∧
          keyOf env inner = some key ∧ key.allBlank = false ∧ plan.readme = s.readme ∧
          plan.apiKey = key ∧ plan.options.user = user) := by
  unfold Invocation.plan at h
  obtain ⟨s, hsettings, h⟩ := bind_eq_ok_iff.1 h
  obtain ⟨formats, hformats, h⟩ := bind_eq_ok_iff.1 h
  obtain ⟨document, hread, h⟩ := bind_eq_ok_iff.1 h
  obtain ⟨regions, hscan, h⟩ := bind_eq_ok_iff.1 h
  obtain ⟨hsettled, hvalid⟩ := settings_ofUpdate_eq_ok_iff.1 hsettings
  obtain ⟨pattern, hpattern, -⟩ := formats_eq_ok_iff.1 hformats
  have horder : InOrder env t outer inner s document regions :=
    ⟨hsettled, hvalid, ⟨pattern, hpattern⟩, readDocument_eq_ok_iff.1 hread, hscan⟩
  refine ⟨s, document, regions, horder, ?_⟩
  split at h
  · next hempty =>
    cases h
    exact ⟨rfl, .inl ⟨rfl, List.isEmpty_iff.1 hempty⟩⟩
  · next hregions =>
    split at h
    · cases h
    · next user huser =>
      split at h
      · cases h
      · next key hkey =>
        cases h
        obtain ⟨hgiven, hblank⟩ := Option.filter_eq_some_iff.1 hkey
        refine ⟨rfl, .inr ⟨user, key, _, rfl, ?_, huser, hgiven, ?_, rfl, rfl, rfl⟩⟩
        · intro hnil
          exact hregions (List.isEmpty_iff.2 hnil)
        · simpa using hblank

/-! ## Command lines -/

variable {words : List Text}

/-- A command line that is read as an update asks for that update. -/
theorem parse_of_update (h : readOuter {} words = .ok (outer, some (.update, inner))) :
    Invocation.parse words env = .ok (Invocation.ofUpdate env outer inner) := by
  unfold Invocation.parse
  rw [h]
  rfl

/-- An invocation is an update only by a command line that is read as one. -/
theorem exists_of_parse_update {i : Invocation} {a : UpdateArguments}
    (h : Invocation.parse words env = .ok i) (hcommand : i.command = some (.update a)) :
    ∃ outer inner, readOuter {} words = .ok (outer, some (.update, inner)) ∧
      a = UpdateArguments.ofGiven inner env ∧ i = Invocation.ofUpdate env outer inner := by
  unfold Invocation.parse at h
  obtain ⟨⟨outer, task?⟩, hread, h⟩ := bind_eq_ok_iff.1 h
  cases h
  cases task? with
  | none => cases hcommand
  | some given =>
    obtain ⟨task, inner⟩ := given
    cases task with
    | update =>
      cases hcommand
      exact ⟨outer, inner, hread, rfl, rfl⟩
    | init | list | check => cases hcommand

/-! ## Runs -/

variable {w : World}

/-- Only an update talks to the server. -/
theorem server_of_other (service : Text) (disk : Disk) (w : World) {i : Invocation}
    (h : ∀ a, i.command ≠ some (.update a)) :
    (runInvocation service disk i w).2.2 = w.2 := by
  unfold runInvocation
  cases hcommand : i.command with
  | none => rfl
  | some command =>
    cases command with
    | update a => exact absurd hcommand (h a)
    | list | check | init => rfl

/-- A run of an update with a plan computes it from the document that is in order: it leaves the
    server as that does, and succeeds only if that does. -/
theorem computed_of_plan (service : Text) (disk : Disk) {plan : Plan} {s : Settings}
    {document : Text} {regions : List Region}
    (hplan : (Invocation.ofUpdate env outer inner).plan (UpdateArguments.ofGiven inner env) w.1 =
      .ok (readme, some plan))
    (horder : InOrder env w.1 outer inner s document regions) (hreadme : plan.readme = s.readme) :
    (runInvocation service disk (Invocation.ofUpdate env outer inner) w).2.2 =
        (computeUpdate (Client.mk plan.apiKey service).source plan.options document w).2.2 ∧
      ((∃ printed, (runInvocation service disk (Invocation.ofUpdate env outer inner) w).1 = .ok printed) →
        ∃ u, (computeUpdate (Client.mk plan.apiKey service).source plan.options document w).1 =
          .ok u) := by
  obtain ⟨t, server⟩ := w
  have hread : (FileStore.mk (rootOf t outer inner) disk).store.read plan.readme t =
      .ok { content := document, version := .ofContent document } := by
    apply FileStore.read_of_readFile
    unfold FileStore.readFile
    rw [mapError_eq_ok_iff, hreadme]
    exact horder.read
  have hbeside := updateDocument_beside (Client.mk plan.apiKey service).source plan.options server
    hread
  -- an update that succeeds was computed from what was read
  have hcomputed : ∀ report, (updateDocument (FileStore.mk (rootOf t outer inner) disk).store
      (Client.mk plan.apiKey service).source plan.options plan.readme (t, server)).1 = .ok report →
        ∃ u, (computeUpdate (Client.mk plan.apiKey service).source plan.options document
          (t, server)).1 = .ok u := by
    intro report hreport
    obtain ⟨stored, u, _, hstored, hu, -⟩ := updateDocument_eq_ok (t := t) (s := server)
      (Prod.ext hreport rfl)
    obtain rfl := Except.ok.inj (hread.symm.trans hstored)
    exact ⟨u, hu⟩
  have hroot : (Invocation.ofUpdate env outer inner).root t = rootOf t outer inner := rfl
  rw [runInvocation_of_plan (w := (t, server)) rfl hplan, hroot]
  generalize updateDocument (FileStore.mk (rootOf t outer inner) disk).store
    (Client.mk plan.apiKey service).source plan.options plan.readme (t, server) = out
    at hbeside hcomputed ⊢
  obtain ⟨outcome, left⟩ := out
  constructor
  · exact hbeside
  · intro hprinted
    obtain ⟨printed, hprinted⟩ := hprinted
    obtain ⟨report, hreport, -⟩ := map_eq_ok_iff.1 (mapError_eq_ok_iff.1 hprinted)
    exact hcomputed report hreport

/-- The query of a line, read as a form, names one user and one key, these ones; and if it names a
    number of rows, that is from 1 to 50. -/
def Shows (user key line : Text) : Prop :=
  ∃ pairs, Text.readPairs? (queryOf line) = some pairs ∧
    (∀ value, (("user" : Text), value) ∈ pairs ↔ value = user) ∧
    (∀ value, (("api_key" : Text), value) ∈ pairs ↔ value = key) ∧
    ∀ value, (("limit" : Text), value) ∈ pairs → ∃ n, value = Text.ofNat n ∧ 1 ≤ n ∧ n ≤ 50

/-- What a request asks for beyond the account is neither a user nor a key, and its limit is the
    number of its rows. -/
theorem of_mem_further (q : Request) : ∀ pair ∈ q.further,
    pair.1 ≠ "user" ∧ pair.1 ≠ "api_key" ∧ (pair.1 = "limit" → pair.2 = Text.ofNat q.config.rows) := by
  have hlimit : ("limit" : Text) ≠ "user" ∧ ("limit" : Text) ≠ "api_key" := by decide
  have hextended : ("extended" : Text) ≠ "user" ∧ ("extended" : Text) ≠ "api_key" ∧
      ("extended" : Text) ≠ "limit" := by decide
  have hperiod : ("period" : Text) ≠ "user" ∧ ("period" : Text) ≠ "api_key" ∧
      ("period" : Text) ≠ "limit" := by decide
  intro pair hpair
  unfold Request.further at hpair
  cases hfamily : q.family
  all_goals
    simp only [hfamily, List.mem_cons, List.not_mem_nil, or_false] at hpair
  case recent =>
    rcases hpair with rfl | rfl
    · exact ⟨hlimit.1, hlimit.2, fun _ => rfl⟩
    · exact ⟨hextended.1, hextended.2.1, fun heq => absurd heq hextended.2.2⟩
  all_goals
    rcases hpair with rfl | rfl
    · exact ⟨hlimit.1, hlimit.2, fun _ => rfl⟩
    · exact ⟨hperiod.1, hperiod.2.1, fun heq => absurd heq hperiod.2.2⟩

/-- A parameter of a request by its name and its value. -/
theorem mem_parameters_iff {c : Client} {q : Request} {name value : Text} :
    (name, value) ∈ c.parameters q ↔ (name = "method" ∧ value = q.family.method) ∨
      (name = "api_key" ∧ value = c.apiKey) ∨ (name = "format" ∧ value = "json") ∨
      (name = "user" ∧ value = q.user) ∨ (name, value) ∈ q.further := by
  unfold Client.parameters
  rw [Request.parameters_eq]
  simp only [List.mem_append, List.mem_cons, Prod.mk.injEq, List.not_mem_nil, or_false, or_assoc]

/-- The lines for a user to the public service show that user. -/
theorem shows_of_isBound {user key line : Text} (h : (Client.ofKey key).IsBound user line) :
    Shows user key line := by
  obtain ⟨q, s, hsends, rfl, hrows⟩ := h
  have hfurther := of_mem_further q
  refine ⟨_, Client.readPairs?_of_sends hsends, ?_, ?_, ?_⟩
  -- no other parameter is called a user, a key or a limit
  · intro value
    rw [mem_parameters_iff]
    constructor
    · rintro (⟨h, -⟩ | ⟨h, -⟩ | ⟨h, -⟩ | ⟨-, h⟩ | h)
      · exact absurd h (by decide)
      · exact absurd h (by decide)
      · exact absurd h (by decide)
      · exact h
      · exact absurd rfl (hfurther _ h).1
    · intro h
      exact .inr (.inr (.inr (.inl ⟨rfl, h⟩)))
  · intro value
    rw [mem_parameters_iff]
    constructor
    · rintro (⟨h, -⟩ | ⟨-, h⟩ | ⟨h, -⟩ | ⟨h, -⟩ | h)
      · exact absurd h (by decide)
      · exact h
      · exact absurd h (by decide)
      · exact absurd h (by decide)
      · exact absurd rfl (hfurther _ h).2.1
    · intro h
      exact .inr (.inl ⟨rfl, h⟩)
  · intro value
    rw [mem_parameters_iff]
    rintro (⟨h, -⟩ | ⟨h, -⟩ | ⟨h, -⟩ | ⟨h, -⟩ | h)
    · exact absurd h (by decide)
    · exact absurd h (by decide)
    · exact absurd h (by decide)
    · exact absurd h (by decide)
    · exact ⟨q.config.rows, (hfurther _ h).2.2 rfl, hrows⟩

/-- What an update sends, and when it may end without having sent anything. -/
theorem exists_lines_of_update (service : Text) (disk : Disk) (env : Environment)
    (outer inner : Given) (w : World) :
    ∃ lines, (runInvocation service disk (Invocation.ofUpdate env outer inner) w).2.2.received =
        w.2.received ++ lines ∧
      (lines ≠ [] → ∃ s document regions user key,
        InOrder env w.1 outer inner s document regions ∧ regions ≠ [] ∧
        s.user = some user ∧ user.allBlank = false ∧
        keyOf env inner = some key ∧ key.allBlank = false ∧
        (Client.mk key service).Sent user w.2 lines
          (runInvocation service disk (Invocation.ofUpdate env outer inner) w).2.2) ∧
      (lines = [] →
        (∃ printed, (runInvocation service disk (Invocation.ofUpdate env outer inner) w).1 =
          .ok printed) → ∃ s document, InOrder env w.1 outer inner s document []) := by
  cases hplan : (Invocation.ofUpdate env outer inner).plan (UpdateArguments.ofGiven inner env) w.1 with
  | error e =>
    have hrun : runInvocation service disk (Invocation.ofUpdate env outer inner) w =
        (.error (.error e), w) := by
      simp only [runInvocation, Invocation.ofUpdate, runUpdate] at hplan ⊢
      rw [hplan]
      rfl
    rw [hrun]
    refine ⟨[], (List.append_nil _).symm, fun h => absurd rfl h, ?_⟩
    intro _ hprinted
    obtain ⟨printed, h⟩ := hprinted
    cases h
  | ok planned =>
    obtain ⟨readme, plan?⟩ := planned
    obtain ⟨s, document, regions, horder, -, hcases⟩ := exists_inOrder_of_plan hplan
    rcases hcases with ⟨rfl, rfl⟩ |
      ⟨user, key, plan, rfl, hne, huser, hkey, hblank, hreadme, rfl, rfl⟩
    · -- there is no region, so nothing is asked for
      have hserver : (runInvocation service disk (Invocation.ofUpdate env outer inner) w).2.2 =
          w.2 := by
        simp only [runInvocation, Invocation.ofUpdate, runUpdate] at hplan ⊢
        rw [hplan]
      refine ⟨[], by rw [hserver, List.append_nil], fun h => absurd rfl h, ?_⟩
      intro _ _
      exact ⟨s, document, horder⟩
    · obtain ⟨hserver, hcomputed⟩ := computed_of_plan service disk hplan horder hreadme
      obtain ⟨lines, hsent⟩ :=
        sent_computeUpdate (Client.mk plan.apiKey service) plan.options document w
      refine ⟨lines, by rw [hserver, hsent.received], ?_, ?_⟩
      · intro _
        exact ⟨s, document, regions, _, _, horder, hne, huser, horder.valid.user _ huser, hkey,
          hblank, hserver ▸ hsent⟩
      · intro hnone hprinted
        -- an update that was computed would have sent a line
        obtain ⟨u, hu⟩ := hcomputed hprinted
        have hlt := length_lt_of_computeUpdate horder.scanned hne (Prod.ext hu rfl)
        rw [hsent.received, hnone, List.append_nil] at hlt
        exact absurd hlt (Nat.lt_irrefl _)

/-- **Nothing is sent before all is in order**.

    A run sends some lines, or none.

    * If it sends any, then it is an update by its command line, its settings, its pattern for dates
      and its document are in order, there is a region, and a user and a key are given that are not
      blank. What is sent are lines of requests, each followed by those for where the replies send
      the client on to. The lines of requests are all for this user and with this key, which is not
      taken from a file; and none asks for less than one row or more than fifty. Those to the public
      service say so. If no reply sends the client on, then there are no other lines.
    * An update that sends none and ends without a failure has its settings, its pattern for dates
      and its document in order, and there is no region. -/
theorem sends_only_in_order (service : Text) (disk : Disk) (words : List Text) (env : Environment)
    (w : World) :
    ∃ lines, (run service disk words env w).world.2.received = w.2.received ++ lines ∧
      (lines ≠ [] → ∃ outer inner s document regions user key,
        readOuter {} words = .ok (outer, some (.update, inner)) ∧
        InOrder env w.1 outer inner s document regions ∧ regions ≠ [] ∧
        s.user = some user ∧ user.allBlank = false ∧
        keyOf env inner = some key ∧ key.allBlank = false ∧
        (Client.mk key service).Sent user w.2 lines (run service disk words env w).world.2 ∧
        (service = Client.publicUrl →
          ∀ line, (Client.mk key service).IsBound user line → Shows user key line) ∧
        (w.2.IsDirect → ∀ line ∈ lines, (Client.mk key service).IsBound user line)) ∧
      (lines = [] → (run service disk words env w).exitCode = 0 →
        ∀ outer inner, readOuter {} words = .ok (outer, some (.update, inner)) →
          ∃ s document, InOrder env w.1 outer inner s document []) := by
  cases hparse : Invocation.parse words env with
  | error stop =>
    have hworld : (run service disk words env w).world = w := by
      unfold run
      rw [hparse]
      cases stop <;> rfl
    refine ⟨[], by rw [hworld, List.append_nil], fun h => absurd rfl h, ?_⟩
    intro _ _ outer inner hread
    rw [parse_of_update hread] at hparse
    cases hparse
  | ok i =>
    obtain ⟨hresult, hworld⟩ : (run service disk words env w).result =
          (runInvocation service disk i w).1 ∧
        (run service disk words env w).world = (runInvocation service disk i w).2 :=
      run_of_parse w hparse
    rw [hworld, Outcome.exitCode_eq_zero_iff, hresult]
    by_cases hupdate : ∃ a, i.command = some (.update a)
    · obtain ⟨a, hcommand⟩ := hupdate
      obtain ⟨outer, inner, hread, -, rfl⟩ := exists_of_parse_update hparse hcommand
      obtain ⟨lines, hlines, hsome, hnone⟩ :=
        exists_lines_of_update service disk env outer inner w
      refine ⟨lines, hlines, ?_, ?_⟩
      · intro hne
        obtain ⟨s, document, regions, user, key, horder, hregions, huser, hblank, hkey, hkeyblank,
          hsent⟩ := hsome hne
        refine ⟨outer, inner, s, document, regions, user, key, hread, horder, hregions, huser, hblank,
          hkey, hkeyblank, hsent, ?_, hsent.isBound_of_isDirect⟩
        intro hservice line hbound
        subst hservice
        exact shows_of_isBound hbound
      · intro hempty hprinted outer' inner' hread'
        -- the words are read in one way only
        have heq := Except.ok.inj (hread'.symm.trans hread)
        obtain ⟨rfl, rfl⟩ : outer' = outer ∧ inner' = inner := by simpa using heq
        exact hnone hempty hprinted
    · have hserver := server_of_other service disk w fun a h => hupdate ⟨a, h⟩
      refine ⟨[], by rw [hserver, List.append_nil], fun h => absurd rfl h, ?_⟩
      intro _ _ outer inner hread
      rw [parse_of_update hread] at hparse
      obtain rfl := Except.ok.inj hparse
      exact absurd ⟨_, rfl⟩ hupdate

/-- An update whose line is for the user and the key of its command line, although the environment
    has others, and an update of a document without regions. -/
theorem sends_only_in_order_docs :
    let words : List Text := ["update", "--path", "docs", "--user", "rj", "--api-key", "key"]
    let env : Environment := { user := some "other", apiKey := some "another" }
    (∃ line, (run Client.publicUrl .sound words env
      (Sample.documentTree Sample.albumDocument, Sample.albumServer)).world.2.received = [line] ∧
        Shows "rj" "key" line) ∧
    ∃ inner s document, InOrder env (Sample.documentTree "Footer.") {} inner s document [] := by
  intro words env
  let inner : Given := { values := [(.path, "docs"), (.user, "rj"), (.apiKey, "key")] }
  have hread : readOuter {} words = .ok ({}, some (.update, inner)) := by decide +kernel
  constructor
  · obtain ⟨lines, hlines, hsome, -⟩ := sends_only_in_order Client.publicUrl .sound words env
      (Sample.documentTree Sample.albumDocument, Sample.albumServer)
    have hlength : (run Client.publicUrl .sound words env (Sample.documentTree Sample.albumDocument,
        Sample.albumServer)).world.2.received.length = 1 := by decide +kernel
    have hdirect : Sample.albumServer.IsDirect := by decide +kernel
    rw [hlines] at hlength ⊢
    obtain ⟨line, rfl⟩ := List.length_eq_one_iff.1 (hlength : lines.length = 1)
    obtain ⟨_, _, s, _, _, user, key, hread', horder, -, huser, -, hkey, -, -, hshows, hbound⟩ :=
      hsome (List.cons_ne_nil _ _)
    have heq := Except.ok.inj (hread'.symm.trans hread)
    obtain ⟨rfl, rfl⟩ : _ = ({} : Given) ∧ _ = inner := by simpa using heq
    -- what the command line gives goes before what the environment gives
    obtain ⟨base, -, rfl⟩ := horder.settled
    obtain rfl : user = "rj" := (Option.some.inj huser).symm
    obtain rfl : key = "key" := (Option.some.inj hkey).symm
    exact ⟨line, rfl, hshows rfl line (hbound hdirect line List.mem_cons_self)⟩
  · obtain ⟨lines, hlines, -, hnone⟩ := sends_only_in_order Client.publicUrl .sound words env
      (Sample.documentTree "Footer.", Sample.albumServer)
    have hreceived : (run Client.publicUrl .sound words env (Sample.documentTree "Footer.",
        Sample.albumServer)).world.2.received = [] := by decide +kernel
    have hcode : (run Client.publicUrl .sound words env (Sample.documentTree "Footer.",
        Sample.albumServer)).exitCode = 0 := by decide +kernel
    rw [hreceived] at hlines
    obtain ⟨-, rfl⟩ := List.append_eq_nil_iff.1 hlines.symm
    obtain ⟨s, document, horder⟩ := hnone rfl hcode {} inner hread
    exact ⟨inner, s, document, horder⟩

/-- Not every line that is sent names the user and the key: where a reply sends the client on to, the
    client asks for what the reply says. -/
theorem not_forall_received_shows :
    ¬ ∀ (words : List Text) (env : Environment) (w : World) (inner : Given) (user key : Text),
      readOuter {} words = .ok ({}, some (.update, inner)) →
      inner.value? .user = some user → keyOf env inner = some key →
      ∀ line ∈ (run Client.publicUrl .sound words env w).world.2.received,
        line ∈ w.2.received ∨ Shows user key line := by
  intro h
  let words : List Text := ["update", "--path", "docs", "--user", "rj", "--api-key", "key"]
  let inner : Given := { values := [(.path, "docs"), (.user, "rj"), (.apiKey, "key")] }
  let w : World := (Sample.documentTree Sample.albumDocument, Sample.movedServer)
  have hread : readOuter {} words = .ok ({}, some (.update, inner)) := by decide +kernel
  have hreceived : ("GET /elsewhere HTTP/1.1" : Text) ∈
      (run Client.publicUrl .sound words {} w).world.2.received := by decide +kernel
  have hquery : Text.readPairs? (queryOf "GET /elsewhere HTTP/1.1") = some [] := by decide +kernel
  rcases h words {} w inner "rj" "key" hread rfl rfl _ hreceived with hbefore | ⟨pairs, hpairs, huser, -⟩
  · cases hbefore
  · obtain rfl := Option.some.inj (hquery.symm.trans hpairs)
    exact absurd ((huser "rj").2 rfl) List.not_mem_nil

end Cli

end ListeningCharts
