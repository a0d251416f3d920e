import ListeningCharts.Proofs.Shown
import ListeningCharts.Proofs.Weaving
import ListeningCharts.Sample

/-! # The texts that a region shows

    What a region shows is woven from the texts of its records, the user, numbers, dates and fixed
    words. A text may hold line feeds, and then its lines stand as lines of the region.

    * To a family the region shows content exactly if the texts do, but for the first line of each,
      which stands behind fixed words (`Region.isContent_shown_iff`).
    * If none of the texts holds a line feed, then no line that is shown reads like a marker
      (`Region.markerFree_of_oneLine`).
-/

namespace ListeningCharts

/-! ## Numbers and dates -/

theorem Text.lineFeed_not_mem_ofNat (n : Nat) : '\n' ∉ Text.ofNat n := by
  intro h
  have hdigit : ('\n' : Char).isDigit = true :=
    Nat.isDigit_of_mem_toDigits (by decide) (by decide) h
  exact absurd hdigit (by decide)

theorem Text.lineFeed_not_mem_padded (width n : Nat) : '\n' ∉ Text.padded width n := by
  rw [padded, List.leftpad, List.mem_append, not_or]
  refine ⟨fun h => ?_, lineFeed_not_mem_ofNat n⟩
  exact absurd (List.eq_of_mem_replicate h) (by decide)

theorem NumberFormat.lineFeed_not_mem_format {f : NumberFormat} (h : '\n' ∉ f.separator) (n : Nat) :
    '\n' ∉ f.format n := by
  have hdigits := Text.lineFeed_not_mem_ofNat n
  simp only [format]
  split
  · exact hdigits
  -- the groups are cut from the digits, so a line feed in a group is one among the digits
  · refine Text.not_mem_intercalate h fun piece hpiece hmem => ?_
    rw [← flatten_digitGroups f.secondary (Text.ofNat n)] at hdigits
    exact hdigits (List.mem_flatten.2 ⟨piece, hpiece, hmem⟩)

theorem NumberFormat.lineFeed_not_mem_separator (tag : Text) :
    '\n' ∉ (NumberFormat.ofLocale tag).separator := by
  have h : ∀ language region, '\n' ∉ (ofSubtags language region).separator := by
    intro language region
    unfold ofSubtags
    split <;> decide
  exact h _ _

theorem DateField.lineFeed_not_mem_format (t : CivilTime) (f : DateField) : '\n' ∉ f.format t := by
  have hnames : ∀ names : List Text, (∀ name ∈ names, '\n' ∉ name) → ∀ i, '\n' ∉ names.getD i [] := by
    intro names h i
    rw [List.getD_eq_getElem?_getD]
    cases hi : names[i]? with
    | none => simp
    | some name => exact h name (List.mem_of_getElem? hi)
  have hmonths := hnames monthNames (by decide)
  have hweekdays := hnames weekdayNames (by decide)
  have htake : ∀ name : Text, '\n' ∉ name → '\n' ∉ name.take 3 := fun name h hmem =>
    h (List.mem_of_mem_take hmem)
  cases f with
  | year =>
    show '\n' ∉ fullYear t.year
    have hpadded := Text.lineFeed_not_mem_padded 4 t.year.natAbs
    unfold fullYear
    split
    · simp [hpadded]
    · split
      · simp [hpadded]
      · exact hpadded
  | month | day | hour | hourOf12 | minute | second => exact Text.lineFeed_not_mem_ofNat _
  | year2 | month2 | day2 | hour2 | hourOf12Padded | minute2 | second2 =>
    exact Text.lineFeed_not_mem_padded _ _
  | monthAbbreviated => exact htake _ (hmonths _)
  | monthName => exact hmonths _
  | weekdayAbbreviated => exact htake _ (hweekdays _)
  | weekdayName => exact hweekdays _
  | halfOfDay =>
    show '\n' ∉ (if t.hour < 12 then "AM".toList else "PM".toList)
    split <;> decide

theorem DatePattern.lineFeed_not_mem_format {p : DatePattern} (h : .literal '\n' ∉ p.units)
    (seconds : Int) : '\n' ∉ p.format seconds := by
  rw [format]
  split
  · intro hmem
    obtain ⟨unit, hunit, hmem⟩ := List.mem_flatMap.1 hmem
    cases unit with
    | field f => exact DateField.lineFeed_not_mem_format _ f hmem
    | literal c =>
      obtain rfl := List.mem_singleton.1 hmem
      exact h hunit
  · cases seconds with
    | ofNat n => exact Text.lineFeed_not_mem_ofNat n
    | negSucc n =>
      show '\n' ∉ '-' :: Text.ofNat (n + 1)
      simp [Text.lineFeed_not_mem_ofNat]

theorem DatePattern.literal_not_mem_endRun {run : Option (Char × Nat)} {units : List DateUnit}
    (h : endRun run = .ok units) (c : Char) : .literal c ∉ units := by
  rcases run with _ | ⟨letter, length⟩
  · cases h
    exact List.not_mem_nil
  · rw [endRun] at h
    split at h
    · cases h
      simp
    · cases h

/-- A literal of a pattern is one that was just emitted, or it belongs to the rest of the pattern. -/
theorem DatePattern.literal_mem_of_emit {run : Option (Char × Nat)} {emitted units : List DateUnit}
    {rest : Except DatePatternFault (List DateUnit)}
    (h : (do return (← endRun run) ++ (emitted ++ (← rest))) = Except.ok units) {c : Char}
    (hc : .literal c ∈ units) :
    .literal c ∈ emitted ∨ ∃ more, rest = .ok more ∧ .literal c ∈ more := by
  obtain ⟨first, hfirst, h⟩ := bind_eq_ok_iff.1 h
  obtain ⟨more, hmore, h⟩ := bind_eq_ok_iff.1 h
  cases h
  rcases List.mem_append.1 hc with hc | hc
  · exact absurd hc (literal_not_mem_endRun hfirst c)
  · exact (List.mem_append.1 hc).imp_right fun hc => ⟨more, hmore, hc⟩

/-- **The literals of a pattern are characters of it**. -/
theorem DatePattern.mem_of_readUnits {place : Place} {source : Text} {units : List DateUnit}
    (h : readUnits place source = .ok units) {c : Char} (hc : .literal c ∈ units) :
    c ∈ source := by
  -- a literal was emitted for the character that is read, or it comes from the rest
  fun_induction readUnits place source generalizing units with
  | case1 run => exact absurd hc (literal_not_mem_endRun h c)
  | case2 run rest ih =>
    rcases @literal_mem_of_emit _ [.literal '\''] _ _ h _ hc with hc | ⟨more, hmore, hc⟩
    · simp_all
    · simp [ih hmore hc]
  | case3 run rest _ ih =>
    rcases @literal_mem_of_emit _ [] _ _ h _ hc with hc | ⟨more, hmore, hc⟩
    · simp_all
    · simp [ih hmore hc]
  | case5 d rest _ _ letter length _ _ ih =>
    rcases @literal_mem_of_emit _ [] _ _ h _ hc with hc | ⟨more, hmore, hc⟩
    · simp_all
    · simp [ih hmore hc]
  | case6 d rest _ _ letter length _ _ ih =>
    rcases @literal_mem_of_emit _ [.literal d] _ _ h _ hc with hc | ⟨more, hmore, hc⟩
    · simp_all
    · simp [ih hmore hc]
  | case8 d rest _ _ _ ih | case11 d rest _ ih =>
    rcases @literal_mem_of_emit none [.literal d] _ _ h _ hc with hc | ⟨more, hmore, hc⟩
    · simp_all
    · simp [ih hmore hc]
  | case4 rest letter length _ _ ih | case7 letter rest _ _ _ ih | case10 rest ih =>
    exact List.mem_cons_of_mem _ (ih h hc)
  | case9 => cases h

/-! ## Formats -/

/-- No number and no date is written with a line feed. -/
structure Formats.OneLine (formats : Formats) : Prop where
  number (n : Nat) : '\n' ∉ formats.numbers.format n
  date (seconds : Int) : '\n' ∉ formats.dates.format seconds

/-- No locale has a line feed in a number. -/
theorem Formats.lineFeed_not_mem_number {locale pattern : Text} {formats : Formats}
    (h : ofLocale locale pattern = .ok formats) (n : Nat) : '\n' ∉ formats.numbers.format n := by
  obtain ⟨dates, -, h⟩ := bind_eq_ok_iff.1 h
  cases h
  exact NumberFormat.lineFeed_not_mem_format (NumberFormat.lineFeed_not_mem_separator _) n

/-- The formats of every locale and of a date pattern without line feeds. -/
theorem Formats.oneLine_of_ofLocale {locale pattern : Text} {formats : Formats}
    (h : ofLocale locale pattern = .ok formats) (hpattern : '\n' ∉ pattern) : formats.OneLine := by
  have hnumber := lineFeed_not_mem_number h
  obtain ⟨dates, hdates, h⟩ := bind_eq_ok_iff.1 h
  obtain ⟨units, hunits, hparse⟩ := bind_eq_ok_iff.1 hdates
  cases hparse
  cases h
  exact {
    number := hnumber
    date := DatePattern.lineFeed_not_mem_format fun h =>
      hpattern (DatePattern.mem_of_readUnits hunits h) }

/-! ## Records -/

/-- The texts in a listing. -/
def Listing.texts : Listing → List Text
  | .recent played => played.flatMap fun t => [t.name, t.url, t.artist]
  | .tracks works | .albums works =>
    works.flatMap fun w => [w.name, w.url, w.artist.name, w.artist.url]
  | .artists ranked => ranked.flatMap fun a => [a.name, a.url]
  | .userInfo _ => []

namespace Render

variable {f : Family} {formats : Formats}

/-- The texts that the lines of a region show: those of the records that it has rows for, and the
    values of an account. -/
def texts (config : RegionConfig) (formats : Formats) : Listing → List Text
  | .tracks works | .albums works =>
    (works.take config.rows).flatMap fun w => [w.name, w.url, w.artist.name, w.artist.url]
  | .artists ranked => (ranked.take config.rows).flatMap fun a => [a.name, a.url]
  | .recent played => (played.take config.rows).flatMap fun t => [t.name, t.url, t.artist]
  | .userInfo none => []
  | .userInfo (some s) => config.display.map (summaryValue formats s)

theorem isFixed_lineBreak : IsFixed "<br/>" := ⟨isBlunt_tag (by decide) _, by decide⟩

theorem isFixed_middle : IsFixed "](" := isFixed_of_head (c := ']') rfl (by decide) (by decide)

theorem isContent_rankedLine (hnumbers : ∀ n, '\n' ∉ formats.numbers.format n) (playcount : Nat)
    (name url : Text) (artist : Option ArtistLink) :
    f.IsContent (rankedLine formats.numbers playcount name url artist) ↔
      ∀ t ∈ [name, url] ++ artist.toList.flatMap fun a => [a.name, a.url], f.IsContentBelow t := by
  have hhead : IsFixed ("> `".toList ++ formats.numbers.format playcount ++
      (" ▶️` ∙ **".toList ++ "[".toList)) := by
    refine isFixed_of_head (c := '>') rfl (by decide) ?_
    simp only [List.mem_append, not_or]
    exact ⟨⟨by decide, hnumbers playcount⟩, by decide, by decide⟩
  cases artist with
  | none =>
    have hlast : IsFixed (")".toList ++ "**".toList ++ "<br/>".toList) :=
      isFixed_of_head (c := ')') rfl (by decide) (by decide)
    have hline : rankedLine formats.numbers playcount name url none =
        weave ("> `".toList ++ formats.numbers.format playcount ++
            (" ▶️` ∙ **".toList ++ "[".toList))
          [(name, "]("), (url, ")".toList ++ "**".toList ++ "<br/>".toList)] := by
      unfold rankedLine link
      simp only [weave, List.append_assoc]
      rfl
    rw [hline]
    exact isContent_weave_iff hhead (List.forall_mem_cons.2 ⟨isFixed_middle,
      List.forall_mem_singleton.2 hlast⟩)
  | some a =>
    have hbetween : IsFixed (")".toList ++ "**".toList ++ (" - ".toList ++ "[".toList)) :=
      isFixed_of_head (c := ')') rfl (by decide) (by decide)
    have hlast : IsFixed (")".toList ++ "<br/>".toList) :=
      isFixed_of_head (c := ')') rfl (by decide) (by decide)
    have hline : rankedLine formats.numbers playcount name url (some a) =
        weave ("> `".toList ++ formats.numbers.format playcount ++
            (" ▶️` ∙ **".toList ++ "[".toList))
          [(name, "]("), (url, ")".toList ++ "**".toList ++ (" - ".toList ++ "[".toList)),
            (a.name, "]("), (a.url, ")".toList ++ "<br/>".toList)] := by
      unfold rankedLine link
      simp only [weave, List.append_assoc]
    rw [hline]
    exact isContent_weave_iff hhead (List.forall_mem_cons.2 ⟨isFixed_middle,
      List.forall_mem_cons.2 ⟨hbetween, List.forall_mem_cons.2 ⟨isFixed_middle,
        List.forall_mem_singleton.2 hlast⟩⟩⟩)

theorem isContent_recentLine {bullet : Text} (hbullet : '\n' ∉ bullet) (t : RecentTrack) :
    f.IsContent (recentLine bullet t) ↔ ∀ u ∈ [t.name, t.url, t.artist], f.IsContentBelow u := by
  have hhead : IsFixed ("> ".toList ++ bullet ++ (" **".toList ++ "[".toList)) := by
    refine isFixed_of_head (c := '>') rfl (by decide) ?_
    simp only [List.mem_append, not_or]
    exact ⟨⟨by decide, hbullet⟩, by decide, by decide⟩
  have hbetween : IsFixed (")".toList ++ "** - ".toList) :=
    isFixed_of_head (c := ')') rfl (by decide) (by decide)
  have hline : recentLine bullet t = weave ("> ".toList ++ bullet ++ (" **".toList ++ "[".toList))
      [(t.name, "]("), (t.url, ")".toList ++ "** - ".toList), (t.artist, "<br/>")] := by
    unfold recentLine link
    simp only [weave, List.append_assoc]
  rw [hline]
  exact isContent_weave_iff hhead (List.forall_mem_cons.2 ⟨isFixed_middle,
    List.forall_mem_cons.2 ⟨hbetween, List.forall_mem_singleton.2 isFixed_lineBreak⟩⟩)

theorem isContent_summaryLine (s : AccountSummary) (field : DisplayField) :
    f.IsContent (summaryLine formats s field) ↔
      ∀ t ∈ [summaryValue formats s field], f.IsContentBelow t := by
  have hhead : IsFixed ("> **".toList ++ field.label ++ "**: ".toList) := by
    refine isFixed_of_head (c := '>') rfl (by decide) ?_
    simp only [List.mem_append, not_or]
    exact ⟨⟨by decide, by cases field <;> decide⟩, by decide⟩
  have hline : summaryLine formats s field = weave ("> **".toList ++ field.label ++ "**: ".toList)
      [(summaryValue formats s field, "<br/>")] := rfl
  rw [hline]
  exact isContent_weave_iff hhead (List.forall_mem_singleton.2 isFixed_lineBreak)

/-- **The lines of a listing are content if its texts are**, but for the first line of each. -/
theorem isContent_lines (hnumbers : ∀ n, '\n' ∉ formats.numbers.format n) (config : RegionConfig)
    (listing : Listing) :
    (∀ line ∈ lines config formats listing, f.IsContent line) ↔
      ∀ t ∈ texts config formats listing, f.IsContentBelow t := by
  -- tracks and albums are shown alike
  have hworks : ∀ works : List RankedWork,
      (∀ line ∈ works.map (workLine formats.numbers), f.IsContent line) ↔
        ∀ t ∈ works.flatMap fun w => [w.name, w.url, w.artist.name, w.artist.url],
          f.IsContentBelow t := by
    intro works
    rw [List.forall_mem_map, List.forall_mem_flatMap]
    exact forall₂_congr fun w _ => isContent_rankedLine hnumbers _ _ _ (some w.artist)
  cases listing with
  | tracks works => exact hworks _
  | albums works => exact hworks _
  | artists ranked =>
    show (∀ line ∈ (ranked.take config.rows).map _, _) ↔ ∀ t ∈ (ranked.take config.rows).flatMap _, _
    rw [List.forall_mem_map, List.forall_mem_flatMap]
    exact forall₂_congr fun a _ => isContent_rankedLine hnumbers _ _ _ none
  | recent tracks =>
    show (∀ line ∈ recentLines config.rows tracks, _) ↔
      ∀ t ∈ (tracks.take config.rows).flatMap _, _
    rw [recentLines]
    split
    · next htake => simp [htake]
    · next first rest htake =>
      -- the first track may have a bullet of its own
      have hbullet : '\n' ∉ (if config.rows < tracks.length then ['🎶'] else ['∙']) := by
        split <;> decide
      rw [htake, List.forall_mem_cons, List.forall_mem_map, List.flatMap_cons,
        List.forall_mem_append, List.forall_mem_flatMap, isContent_recentLine hbullet]
      exact and_congr_right fun _ => forall₂_congr fun t _ => isContent_recentLine (by decide) t
  | userInfo summary =>
    cases summary with
    | none => simp [lines, texts]
    | some s =>
      show (∀ line ∈ config.display.map _, _) ↔ ∀ t ∈ config.display.map _, _
      rw [List.forall_mem_map, List.forall_mem_map]
      exact forall₂_congr fun field _ =>
        (isContent_summaryLine s field).trans List.forall_mem_singleton

/-- The texts that are shown have no line feed if those of the listing have none. -/
theorem lineFeed_not_mem_of_mem_texts {config : RegionConfig} {listing : Listing}
    (hformats : formats.OneLine) (htexts : ∀ t ∈ listing.texts, '\n' ∉ t) :
    ∀ t ∈ texts config formats listing, '\n' ∉ t := by
  intro t ht
  have hshown : ∀ {α : Type} (records : List α) (g : α → List Text),
      t ∈ (records.take config.rows).flatMap g → t ∈ records.flatMap g := by
    intro α records g ht
    obtain ⟨record, hrecord, ht⟩ := List.mem_flatMap.1 ht
    exact List.mem_flatMap.2 ⟨record, List.mem_of_mem_take hrecord, ht⟩
  cases listing with
  | recent played | tracks works | artists ranked | albums works =>
    exact htexts t (hshown _ _ ht)
  | userInfo summary =>
    cases summary with
    | none => cases ht
    | some s =>
      obtain ⟨field, -, rfl⟩ := List.mem_map.1 ht
      cases field with
      | registered => exact hformats.date _
      | playcount | artistCount | albumCount | trackCount => exact hformats.number _

/-- **A body is content if the texts in it are**, but for the first line of each. -/
theorem isContent_body (hnumbers : ∀ n, '\n' ∉ formats.numbers.format n) (config : RegionConfig)
    (listing : Listing) :
    f.IsContent (body config formats listing) ↔
      ∀ t ∈ texts config formats listing, f.IsContentBelow t := by
  have hempty : listing.isEmpty = true → texts config formats listing = [] := by
    intro h
    have hlength : listing.length = 0 := by simpa [Listing.isEmpty] using h
    cases listing with
    | recent played | tracks works | artists ranked | albums works =>
      obtain rfl := List.eq_nil_of_length_eq_zero hlength
      simp [texts]
    | userInfo summary =>
      cases summary with
      | none => rfl
      | some s => simp [Listing.length] at hlength
  rw [body]
  split
  · next h =>
    have hmessage : f.IsContent emptyMessage := by
      unfold Family.IsContent
      rw [Text.lines_of_not_mem (by decide)]
      cases f <;> decide
    rw [hempty h]
    simp [hmessage]
  · rw [← isContent_lines hnumbers]
    exact f.isContent_joinLines _

end Render

/-! ## Regions -/

theorem isFixed_logo {t : Text} (ht : '\n' ∉ t) : IsFixed (logo ++ t) := by
  have hlogo : logo.take 2 = ['<', 'a'] := by decide +kernel
  have hone : '\n' ∉ logo := by decide +kernel
  constructor
  · rw [← List.take_append_drop 2 logo, hlogo]
    exact isBlunt_tag (by decide) _
  · simp [hone, ht]

namespace Region

variable {f : Family}

/-- The title of a region, with the logo in front of it. -/
def banner (r : Region) (user : Text) : Text :=
  logo ++ " **" ++ r.family.title r.config.period user ++ "**"

/-- The texts that a banner shows: the title of an account names the user. -/
def bannerTexts (r : Region) (user : Text) : List Text :=
  if r.family = .userInfo then [user] else []

theorem isContent_banner (r : Region) (user : Text) :
    f.IsContent (r.banner user) ↔ ∀ t ∈ r.bannerTexts user, f.IsContentBelow t := by
  have hperiod : '\n' ∉ r.config.period.readable := by cases r.config.period <;> decide
  have hopening : '\n' ∉ " **".toList ++ "[User Info - ".toList := by decide
  have hhead : IsFixed (logo ++ (" **".toList ++ "[User Info - ".toList)) := isFixed_logo hopening
  have hbetween : IsFixed "](https://www.last.fm/user/" :=
    isFixed_of_head (c := ']') rfl (by decide) (by decide)
  have hlast : IsFixed (")".toList ++ "**".toList) :=
    isFixed_of_head (c := ')') rfl (by decide) (by decide)
  -- a title without the user is fixed
  have hfixed : ∀ title : Text, '\n' ∉ title → f.IsContent (logo ++ " **" ++ title ++ "**") := by
    intro title htitle
    have hone : '\n' ∉ " **".toList ++ title ++ "**".toList := by simp [htitle]
    have hcontent := (@isContent_weave_iff f _ (isFixed_logo hone) [] (by simp)).2 (by simp)
    rw [List.append_assoc, List.append_assoc]
    rwa [List.append_assoc] at hcontent
  unfold bannerTexts banner
  cases hfamily : r.family with
  | tracks | artists | albums =>
    refine iff_of_true (hfixed _ ?_) (by simp)
    exact List.mem_append.not.2 (not_or.2 ⟨by decide, hperiod⟩)
  | recent =>
    have hname : '\n' ∉ "Recent Tracks".toList := by decide
    exact iff_of_true (hfixed _ hname) (by simp)
  | userInfo =>
    have hbanner : ∀ front : Text,
        front ++ " **" ++ Family.userInfo.title r.config.period user ++ "**" =
          weave (front ++ (" **".toList ++ "[User Info - ".toList))
            [(user, "](https://www.last.fm/user/"), (user, ")".toList ++ "**".toList)] := by
      intro front
      show front ++ " **" ++ ("[User Info - ".toList ++ user ++ "](https://www.last.fm/user/".toList ++
        user ++ ")".toList) ++ "**" = _
      simp only [weave, List.append_assoc]
    rw [hbanner, isContent_weave_iff hhead]
    · show (∀ t ∈ [user, user], f.IsContentBelow t) ↔ ∀ t ∈ [user], f.IsContentBelow t
      simp
    · exact List.forall_mem_cons.2 ⟨hbetween, List.forall_mem_singleton.2 hlast⟩

/-- The texts that a region shows. -/
def texts (r : Region) (listing : Listing) (options : UpdateOptions) : List Text :=
  (if options.showTitle then r.bannerTexts options.user else []) ++
    Render.texts r.config options.formats listing

/-- **What a region shows is content if its texts are**, but for the first line of each. -/
theorem isContent_shown_iff {options : UpdateOptions}
    (hnumbers : ∀ n, '\n' ∉ options.formats.numbers.format n) (r : Region) (listing : Listing) :
    (∀ line ∈ r.shown listing options, f.role line = .content) ↔
      ∀ t ∈ r.texts listing options, f.IsContentBelow t := by
  show f.IsContent (r.inner listing options) ↔ _
  rw [texts, List.forall_mem_append, ← Render.isContent_body hnumbers, inner]
  cases options.showTitle with
  | false => simp
  | true =>
    -- the banner and an empty line stand in front of the body
    have hjoin : logo ++ " **" ++ r.family.title r.config.period options.user ++ "**\n\n" ++
        Render.body r.config options.formats listing =
        Text.joinLines [r.banner options.user, [], Render.body r.config options.formats listing] := by
      simp [Text.joinLines_cons, banner, List.append_assoc]
    have hnil : f.IsContent [] := by
      unfold Family.IsContent
      cases f <;> decide
    rw [if_pos rfl, if_pos rfl, hjoin, f.isContent_joinLines, List.forall_mem_cons,
      List.forall_mem_cons, List.forall_mem_singleton, isContent_banner]
    simp [hnil]

/-- **Replies of one line are marker-free**: a region shows no line that starts like a marker if the
    user, the date pattern and the texts of the listing have no line feed. -/
theorem markerFree_of_oneLine {locale pattern : Text} {options : UpdateOptions}
    {listing : Listing} (r : Region) (hformats : Formats.ofLocale locale pattern = .ok options.formats)
    (hpattern : '\n' ∉ pattern) (huser : '\n' ∉ options.user)
    (htexts : ∀ t ∈ listing.texts, '\n' ∉ t) : r.MarkerFree listing options := by
  have hone := Formats.oneLine_of_ofLocale hformats hpattern
  have hbelow : ∀ t ∈ r.texts listing options, '\n' ∉ t := by
    intro t ht
    rcases List.mem_append.1 ht with ht | ht
    · have hmem : t ∈ [options.user] := by
        unfold bannerTexts at ht
        split at ht
        · split at ht
          · exact ht
          · cases ht
        · cases ht
      exact List.mem_singleton.1 hmem ▸ huser
    · exact Render.lineFeed_not_mem_of_mem_texts hone htexts t ht
  intro line hline f
  exact Family.role_eq_content_iff.1 ((isContent_shown_iff hone.number r listing).2
    (fun t ht => f.isContentBelow_of_one (hbelow t ht)) line hline)

end Region

/-! ## Samples -/

theorem Sample.ofLocale_formats :
    Formats.ofLocale Formats.defaultLocale Formats.defaultDatePattern = .ok formats := by
  decide +kernel

theorem Sample.markerFree_steady {σ : Type} {listings : Family → Listing}
    (h : ∀ f ∈ Family.all, ∀ t ∈ (listings f).texts, '\n' ∉ t) :
    (steady listings : Source σ).MarkerFree options := by
  intro r s listing s' hfetch
  cases hfetch
  exact r.markerFree_of_oneLine ofLocale_formats (by decide) (by decide) (h _ r.family.mem_all)

theorem Sample.markerFree_profile {σ : Type} : (steady profile : Source σ).MarkerFree options :=
  markerFree_steady (by decide +kernel)

theorem Sample.markerFree_empty {σ : Type} : (steady Listing.empty : Source σ).MarkerFree options :=
  markerFree_steady (by decide +kernel)

end ListeningCharts
