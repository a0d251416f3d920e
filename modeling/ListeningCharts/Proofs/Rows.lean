import ListeningCharts.Proofs.OneLine

/-! # Rows

    A region shows one line for each record that it has a row for, whatever kind of records they are.

    * The record at a place decides the line at that place, but for the bullet in front of the track
      that was played last, which says whether there are more tracks than rows
      (`Render.getElem?_lines`).
    * A line shows no line feed that is not in a text of its record, so the lines are found again in
      the text (`Render.lines_body`).
    * With more rows the lines of a ranking stay and others follow (`Render.lines_isPrefix`).
    * Main statement: the law of rows for every family (`rows_shown`). -/

namespace ListeningCharts

/-! ## Records -/

/-- A record of a family whose records are a list. -/
inductive ListedRecord where
  | played (t : RecentTrack)
  | work (w : RankedWork)
  | artist (a : RankedArtist)
  deriving DecidableEq, Repr

/-- The texts of a record. -/
def ListedRecord.texts : ListedRecord → List Text
  | played t => [t.name, t.url, t.artist]
  | work w => [w.name, w.url, w.artist.name, w.artist.url]
  | artist a => [a.name, a.url]

namespace Listing

/-- The records of a listing that is a list. -/
def records : Listing → List ListedRecord
  | recent l => l.map .played
  | tracks l | albums l => l.map .work
  | artists l => l.map .artist
  | userInfo _ => []

/-- The family is one of those with a list of records. -/
def IsList (l : Listing) : Prop := l.family ≠ .userInfo

/-- The records are in order of their plays. -/
def IsRanked (l : Listing) : Prop := l.family ≠ .userInfo ∧ l.family ≠ .recent

/-- The first records of a listing. -/
def take (n : Nat) : Listing → Listing
  | recent l => recent (l.take n)
  | tracks l => tracks (l.take n)
  | artists l => artists (l.take n)
  | albums l => albums (l.take n)
  | userInfo s => userInfo s

variable {l : Listing}

theorem length_records (h : l.IsList) : l.records.length = l.length := by
  cases l with
  | recent l | tracks l | artists l | albums l => exact List.length_map _
  | userInfo s => exact absurd rfl h

theorem texts_subset {r : ListedRecord} (h : r ∈ l.records) : r.texts ⊆ l.texts := by
  intro t ht
  cases l with
  | recent l | tracks l | artists l | albums l =>
    obtain ⟨record, hrecord, rfl⟩ := List.mem_map.1 h
    exact List.mem_flatMap.2 ⟨record, hrecord, ht⟩
  | userInfo s => cases h

theorem isEmpty_iff : l.isEmpty = true ↔ l.length = 0 := by simp [isEmpty]

/-- Cutting a listing off behind its first record or later does not empty it. -/
theorem isEmpty_take {n : Nat} (h : 1 ≤ n) (l : Listing) : (l.take n).isEmpty = l.isEmpty := by
  rw [Bool.eq_iff_iff, isEmpty_iff, isEmpty_iff]
  cases l with
  | recent l | tracks l | artists l | albums l =>
    show (l.take n).length = 0 ↔ l.length = 0
    rw [List.length_take]
    omega
  | userInfo s => rfl

end Listing

/-! ## Lines -/

namespace Render

variable {formats : Formats} {config : RegionConfig} {listing : Listing}

/-- The line of a record, with the bullet of a track that was played. -/
def recordLine (formats : Formats) (bullet : Char) : ListedRecord → Text
  | .played t => recentLine [bullet] t
  | .work w => workLine formats.numbers w
  | .artist a => artistLine formats.numbers a

/-- The bullet in a row: the first track of a history that is cut off has one of its own. -/
def bulletAt (config : RegionConfig) (listing : Listing) (row : Nat) : Char :=
  if listing.family = .recent ∧ row = 0 ∧ config.rows < listing.length then '🎶' else '∙'

theorem getElem?_recentLines (rows : Nat) (tracks : List RecentTrack) (i : Nat) :
    (recentLines rows tracks)[i]? = ((tracks.take rows)[i]?).map
      (recentLine [if i = 0 ∧ rows < tracks.length then '🎶' else '∙']) := by
  have hbullet : (if rows < tracks.length then ['🎶'] else ['∙']) =
      [if rows < tracks.length then '🎶' else '∙'] := by
    by_cases h : rows < tracks.length
    · rw [if_pos h, if_pos h]
    · rw [if_neg h, if_neg h]
  unfold recentLines
  split
  · next hnil =>
    rw [hnil]
    rfl
  · next first rest hcons =>
    rw [hcons]
    cases i with
    | zero => simp [hbullet]
    | succ i => simp

/-- **Each record decides the line in its row.** -/
theorem getElem?_lines (h : listing.IsList) (i : Nat) :
    (lines config formats listing)[i]? = ((listing.records.take config.rows)[i]?).map
      (recordLine formats (bulletAt config listing i)) := by
  have hranked : ∀ {α : Type} (line : α → Text) (record : α → ListedRecord) (l : List α),
      (∀ a, recordLine formats (bulletAt config listing i) (record a) = line a) →
      ((l.take config.rows).map line)[i]? = (((l.map record).take config.rows)[i]?).map
        (recordLine formats (bulletAt config listing i)) := by
    intro α line record l hline
    rw [← List.map_take, List.getElem?_map, List.getElem?_map, Option.map_map]
    apply congrArg (Option.map · _)
    funext a
    exact (hline a).symm
  cases listing with
  | tracks l | albums l => exact hranked _ ListedRecord.work l fun _ => rfl
  | artists l => exact hranked _ ListedRecord.artist l fun _ => rfl
  | recent l =>
    show (recentLines config.rows l)[i]? = (((l.map ListedRecord.played).take config.rows)[i]?).map _
    rw [getElem?_recentLines, ← List.map_take, List.getElem?_map, Option.map_map]
    have hbullet : bulletAt config (.recent l) i =
        if i = 0 ∧ config.rows < l.length then '🎶' else '∙' := by
      simp [bulletAt, Listing.family, Listing.length]
    rw [hbullet]
    rfl
  | userInfo s => exact absurd rfl h

/-- There is one line in each row, as long as there are records. -/
theorem length_lines (h : listing.IsList) :
    (lines config formats listing).length = min listing.length config.rows := by
  have hlines : lines config formats listing = (listing.records.take config.rows).mapIdx
      fun row => recordLine formats (bulletAt config listing row) := by
    apply List.ext_getElem?
    intro i
    rw [getElem?_lines h, List.getElem?_mapIdx]
  rw [hlines, List.length_mapIdx, List.length_take, Listing.length_records h, Nat.min_comm]

theorem head?_recordLine (bullet : Char) (r : ListedRecord) :
    (recordLine formats bullet r).head? = some '>' := by
  cases r <;> rfl

/-- Every line of a listing is a quotation. -/
theorem head?_of_mem_lines {line : Text} (h : line ∈ lines config formats listing) :
    line.head? = some '>' := by
  by_cases hlist : listing.IsList
  · obtain ⟨i, hi⟩ := List.mem_iff_getElem?.1 h
    rw [getElem?_lines hlist] at hi
    obtain ⟨r, -, rfl⟩ := Option.map_eq_some_iff.1 hi
    exact head?_recordLine _ r
  · cases listing with
    | recent l | tracks l | artists l | albums l =>
      exact absurd (by simp [Listing.IsList, Listing.family]) hlist
    | userInfo s =>
      cases s with
      | none => cases h
      | some s =>
        obtain ⟨field, -, rfl⟩ := List.mem_map.1 h
        rfl

theorem lineFeed_not_mem_link {name url : Text} (hname : '\n' ∉ name) (hurl : '\n' ∉ url) :
    '\n' ∉ link name url := by
  unfold link
  simp [hname, hurl]

theorem lineFeed_not_mem_rankedLine {numbers : NumberFormat} {playcount : Nat} {name url : Text}
    {artist : Option ArtistLink} (hnumber : '\n' ∉ numbers.format playcount) (hname : '\n' ∉ name)
    (hurl : '\n' ∉ url) (hartist : ∀ a ∈ artist, '\n' ∉ a.name ∧ '\n' ∉ a.url) :
    '\n' ∉ rankedLine numbers playcount name url artist := by
  have hlink := lineFeed_not_mem_link hname hurl
  unfold rankedLine
  cases artist with
  | none => simp [hnumber, hlink]
  | some a =>
    obtain ⟨haname, haurl⟩ := hartist a rfl
    simp [hnumber, hlink, lineFeed_not_mem_link haname haurl]

/-- A line feed in the line of a record is one in a text of the record. -/
theorem lineFeed_not_mem_recordLine (hnumber : ∀ n, '\n' ∉ formats.numbers.format n) {bullet : Char}
    (hbullet : bullet ≠ '\n') {r : ListedRecord} (h : ∀ t ∈ r.texts, '\n' ∉ t) :
    '\n' ∉ recordLine formats bullet r := by
  cases r with
  | played t =>
    simp only [ListedRecord.texts, List.forall_mem_cons] at h
    obtain ⟨hname, hurl, hartist, -⟩ := h
    have hlink := lineFeed_not_mem_link hname hurl
    show '\n' ∉ recentLine [bullet] t
    unfold recentLine
    simp [hlink, hartist, hbullet.symm]
  | work w =>
    simp only [ListedRecord.texts, List.forall_mem_cons] at h
    obtain ⟨hname, hurl, haname, haurl, -⟩ := h
    show '\n' ∉ rankedLine formats.numbers w.playcount w.name w.url (some w.artist)
    refine lineFeed_not_mem_rankedLine (hnumber _) hname hurl fun a ha => ?_
    cases ha
    exact ⟨haname, haurl⟩
  | artist a =>
    simp only [ListedRecord.texts, List.forall_mem_cons] at h
    show '\n' ∉ rankedLine formats.numbers a.playcount a.name a.url none
    exact lineFeed_not_mem_rankedLine (hnumber _) h.1 h.2.1 fun _ hnone => nomatch hnone

/-! ## The body -/

theorem body_of_records (h : listing.isEmpty = false) :
    body config formats listing = Text.joinLines (lines config formats listing) := by
  unfold body
  rw [if_neg (by simp [h])]

theorem body_of_isEmpty (h : listing.isEmpty = true) : body config formats listing = emptyMessage := by
  unfold body
  exact if_pos h

theorem lines_ne_nil (hrows : 1 ≤ config.rows) (hlist : listing.IsList)
    (h : listing.isEmpty = false) : lines config formats listing ≠ [] := by
  have hlength : listing.length ≠ 0 := fun hzero => by
    rw [Listing.isEmpty_iff.2 hzero] at h
    cases h
  apply List.ne_nil_of_length_pos
  rw [length_lines hlist]
  omega

/-- **The lines are found again in the body**, if no text of a record breaks a line. -/
theorem lines_body (hnumber : ∀ n, '\n' ∉ formats.numbers.format n) (hrows : 1 ≤ config.rows)
    (hlist : listing.IsList) (h : listing.isEmpty = false) (htexts : ∀ t ∈ listing.texts, '\n' ∉ t) :
    (body config formats listing).lines = lines config formats listing := by
  rw [body_of_records h]
  apply Text.lines_joinLines (lines_ne_nil hrows hlist h)
  intro line hline
  obtain ⟨i, hi⟩ := List.mem_iff_getElem?.1 hline
  rw [getElem?_lines hlist] at hi
  obtain ⟨r, hr, rfl⟩ := Option.map_eq_some_iff.1 hi
  have hmem : r ∈ listing.records := List.mem_of_mem_take (List.mem_of_getElem? hr)
  have hbullet : bulletAt config listing i ≠ '\n' := by
    unfold bulletAt
    split <;> decide
  exact lineFeed_not_mem_recordLine hnumber hbullet fun t ht =>
    htexts t (Listing.texts_subset hmem ht)

/-- A region says that there is nothing to show exactly if there is no record. -/
theorem body_eq_emptyMessage_iff :
    body config formats listing = emptyMessage ↔ listing.isEmpty = true := by
  constructor
  · intro hbody
    by_cases hempty : listing.isEmpty = true
    · exact hempty
    · rw [body_of_records (by simpa using hempty)] at hbody
      -- the message is no quotation, and it is not empty either
      cases hlines : lines config formats listing with
      | nil =>
        rw [hlines] at hbody
        exact absurd hbody (by decide)
      | cons line rest =>
        have hmem : line ∈ lines config formats listing := by
          rw [hlines]
          exact List.mem_cons_self
        have hquoted := head?_of_mem_lines hmem
        rw [hlines, Text.joinLines_cons] at hbody
        have hhead : some '>' = emptyMessage.head? := by
          rw [← hbody, List.head?_append, hquoted]
          rfl
        exact absurd hhead (by decide)
  · exact body_of_isEmpty

/-- A ranking shows no record that it has no row for. -/
theorem body_take (hrows : 1 ≤ config.rows) (h : listing.IsRanked) :
    body config formats (listing.take config.rows) = body config formats listing := by
  have hlines : lines config formats (listing.take config.rows) = lines config formats listing := by
    cases listing with
    | tracks l | albums l | artists l =>
      show ((l.take config.rows).take config.rows).map _ = (l.take config.rows).map _
      rw [List.take_take, Nat.min_self]
    | recent l => exact absurd rfl h.2
    | userInfo s => exact absurd rfl h.1
  unfold body
  rw [Listing.isEmpty_take hrows, hlines]

/-- **More rows only add lines to a ranking.** -/
theorem lines_isPrefix (h : listing.IsRanked) {more : Nat} (hmore : config.rows ≤ more) :
    lines config formats listing <+: lines { config with rows := more } formats listing := by
  cases listing with
  | tracks l | albums l | artists l =>
    show (l.take config.rows).map _ <+: (l.take more).map _
    exact (List.take_prefix_take_left hmore).map _
  | recent l => exact absurd rfl h.2
  | userInfo s => exact absurd rfl h.1

theorem lines_joinLines_isPrefix {ls ms : List Text} (hne : ls ≠ []) (h : ls <+: ms) :
    (Text.joinLines ls).lines <+: (Text.joinLines ms).lines := by
  obtain ⟨rest, rfl⟩ := h
  cases rest with
  | nil => simp
  | cons next rest =>
    have hjoin : Text.joinLines (ls ++ next :: rest) =
        Text.joinLines ls ++ '\n' :: Text.joinLines (next :: rest) := by
      have hlast := Text.joinLines_append_append ls (List.cons_ne_nil next rest) []
      rw [List.append_nil, Text.onlines_nil, List.append_nil,
        ← Text.joinLines_append_lineFeed hne] at hlast
      rw [hlast]
      simp
    rw [hjoin, Text.lines_append_lineFeed_append]
    exact List.prefix_append _ _

theorem lines_body_isPrefix (hrows : 1 ≤ config.rows) (h : listing.IsRanked) {more : Nat}
    (hmore : config.rows ≤ more) :
    (body config formats listing).lines <+:
      (body { config with rows := more } formats listing).lines := by
  cases hempty : listing.isEmpty with
  | true => simp [body_of_isEmpty hempty]
  | false =>
    rw [body_of_records hempty, body_of_records hempty]
    exact lines_joinLines_isPrefix (lines_ne_nil hrows h.1 hempty) (lines_isPrefix h hmore)

end Render

open Render

/-- **The law of rows.** For every configuration with a row at least and the numbers of every locale:

    * A listing with records, none of whose texts breaks a line, is shown in as many lines as there
      are records, or rows if these are fewer. The line in a row is decided by the record in that
      place, but for the first one of a history, which has a bullet of its own exactly if there are
      more tracks than rows.
    * A ranking is shown like its first records, and more rows only add lines.
    * An account is shown in a line for each field that is asked for, in this order.
    * The message that there is nothing to show stands exactly for a listing without records. -/
theorem rows_shown {locale : Text} {formats : Formats} (hnumbers : formats.numbers = .ofLocale locale)
    {config : RegionConfig} (hrows : 1 ≤ config.rows) :
    (∀ listing : Listing, listing.IsList → listing.isEmpty = false →
      (∀ t ∈ listing.texts, '\n' ∉ t) →
      (body config formats listing).lines.length = min listing.length config.rows ∧
      ∀ i r, i < config.rows → listing.records[i]? = some r →
        (body config formats listing).lines[i]? = some (recordLine formats
          (if listing.family = .recent ∧ i = 0 ∧ config.rows < listing.length then '🎶' else '∙') r)) ∧
    (∀ listing : Listing, listing.IsRanked →
      body config formats (listing.take config.rows) = body config formats listing ∧
      ∀ more, config.rows ≤ more → (body config formats listing).lines <+:
        (body { config with rows := more } formats listing).lines) ∧
    (∀ s, body config formats (.userInfo (some s)) =
      Text.joinLines (config.display.map (summaryLine formats s))) ∧
    (∀ listing, body config formats listing = emptyMessage ↔ listing.isEmpty = true) := by
  have hnumber : ∀ n, '\n' ∉ formats.numbers.format n := by
    intro n
    rw [hnumbers]
    exact NumberFormat.lineFeed_not_mem_format (NumberFormat.lineFeed_not_mem_separator locale) n
  refine ⟨?_, ?_, fun s => rfl, fun listing => body_eq_emptyMessage_iff⟩
  · intro listing hlist hrecords htexts
    rw [lines_body hnumber hrows hlist hrecords htexts]
    refine ⟨length_lines hlist, fun i r hi hr => ?_⟩
    rw [getElem?_lines hlist, List.getElem?_take_of_lt hi, hr]
    rfl
  · intro listing hranked
    exact ⟨body_take hrows hranked, fun more hmore => lines_body_isPrefix hrows hranked hmore⟩

/-- A history of four tracks in three rows, and a ranking of three tracks in one row and in two. -/
theorem rows_shown_samples :
    let history : Listing := .recent (Sample.recentTracks 4)
    let ranking : Listing := Sample.profile .tracks
    let shown := (body { rows := 3 } Sample.formats history).lines
    shown.length = 3 ∧
    shown[0]? = some ("> 🎶 **[Track 1](https://x/recent/1)** - Radiohead<br/>" : Text) ∧
    shown[2]? = some ("> ∙ **[Track 3](https://x/recent/3)** - Radiohead<br/>" : Text) ∧
    body { rows := 1 } Sample.formats (ranking.take 1) = body { rows := 1 } Sample.formats ranking ∧
    (body { rows := 1 } Sample.formats ranking).lines <+:
      (body { rows := 2 } Sample.formats ranking).lines := by
  intro history ranking shown
  obtain ⟨hlines, -⟩ :=
    @rows_shown Formats.defaultLocale Sample.formats rfl { rows := 3 } (by decide)
  obtain ⟨-, hranking, -⟩ :=
    @rows_shown Formats.defaultLocale Sample.formats rfl { rows := 1 } (by decide)
  obtain ⟨hlength, hrow⟩ := hlines history nofun rfl (by decide)
  obtain ⟨hcut, hmore⟩ := hranking ranking ⟨nofun, nofun⟩
  refine ⟨hlength, ?_, ?_, hcut, hmore 2 (by decide)⟩
  · rw [hrow 0 _ (by decide) rfl]
    decide
  · rw [hrow 2 _ (by decide) rfl]
    decide

end ListeningCharts
