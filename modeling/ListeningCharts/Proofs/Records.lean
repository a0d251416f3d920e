import ListeningCharts.Proofs.Integers
import ListeningCharts.Proofs.JsonWhole
import ListeningCharts.Proofs.Schema

/-! # Records in a reply

    Which values are read as the records of a listing, and as which ones.

    * **By key**: the service writes a record as an object. Each field has one value under its key,
      integers are written in either form, and other keys are free.
    * **By place**: the readers also take a list with the fields in their order.
    * **Left out**: the link of an artist may be missing, and so may the date of a track, which may
      also be null. The artist of a track that was played lately has two keys; the first of them that
      has a text counts.

    Whole values are read exactly if they are one of the two (`rankedWork_eq_ok_iff`,
    `rankedArtist_eq_ok_iff`, `recentTrack_eq_ok_iff`).
-/

namespace ListeningCharts

open Json

namespace Response

variable {room : Nat} {v : Tree} {entries : List (Text × Tree)} {items : List Tree}

/-! ## Records -/

/-- The entries of an object say an artist; the link may be left out. -/
structure LinkByKey (entries : List (Text × Tree)) (a : ArtistLink) : Prop where
  name : Once (valuesUnder "name" entries) Tree.IsText a.name
  url : Given (valuesUnder "url" entries) Tree.IsText [] a.url

/-- The elements of a list say an artist; the link may be left out. -/
inductive LinkByPlace : List Tree → ArtistLink → Prop where
  | both {n u : Tree} {a : ArtistLink} (name : n.IsText a.name) (url : u.IsText a.url) :
      LinkByPlace [n, u] a
  | name {n : Tree} {t : Text} (name : n.IsText t) : LinkByPlace [n] ⟨t, []⟩

/-- A value says an artist. -/
def IsLink (v : Tree) (a : ArtistLink) : Prop := v.IsRecord (LinkByKey · a) (LinkByPlace · a)

/-- The entries of an object say a ranked track or album. -/
structure WorkByKey (entries : List (Text × Tree)) (w : RankedWork) : Prop where
  name : Once (valuesUnder "name" entries) Tree.IsText w.name
  url : Once (valuesUnder "url" entries) Tree.IsText w.url
  playcount : Once (valuesUnder "playcount" entries)
    (fun v (n : Nat) => v.WritesInteger .unsigned64 n) w.playcount
  artist : Once (valuesUnder "artist" entries) IsLink w.artist

/-- The elements of a list say a ranked track or album. -/
inductive WorkByPlace : List Tree → RankedWork → Prop where
  | all {n u c l : Tree} {w : RankedWork} (name : n.IsText w.name) (url : u.IsText w.url)
      (playcount : c.WritesInteger .unsigned64 w.playcount) (artist : IsLink l w.artist) :
      WorkByPlace [n, u, c, l] w

/-- A value says a ranked track or album. -/
def IsWork (v : Tree) (w : RankedWork) : Prop := v.IsRecord (WorkByKey · w) (WorkByPlace · w)

/-- The entries of an object say a ranked artist. -/
structure ArtistByKey (entries : List (Text × Tree)) (a : RankedArtist) : Prop where
  name : Once (valuesUnder "name" entries) Tree.IsText a.name
  url : Once (valuesUnder "url" entries) Tree.IsText a.url
  playcount : Once (valuesUnder "playcount" entries)
    (fun v (n : Nat) => v.WritesInteger .unsigned64 n) a.playcount

/-- The elements of a list say a ranked artist. -/
inductive ArtistByPlace : List Tree → RankedArtist → Prop where
  | all {n u c : Tree} {a : RankedArtist} (name : n.IsText a.name) (url : u.IsText a.url)
      (playcount : c.WritesInteger .unsigned64 a.playcount) : ArtistByPlace [n, u, c] a

/-- A value says a ranked artist. -/
def IsArtist (v : Tree) (a : RankedArtist) : Prop :=
  v.IsRecord (ArtistByKey · a) (ArtistByPlace · a)

/-- The entries of an object name an artist, under one of two keys. The first one counts, and a name
    that neither gives is empty. -/
inductive NameByKey (entries : List (Text × Tree)) : Text → Prop where
  | both {name plain : Option Text} (hname : Perhaps (valuesUnder "name" entries) Tree.IsText name)
      (hplain : Perhaps (valuesUnder "#text" entries) Tree.IsText plain) :
      NameByKey entries ((name.or plain).getD [])

/-- The elements of a list name an artist, in one of two places. -/
inductive NameByPlace : List Tree → Text → Prop where
  | both {n p : Tree} {name plain : Option Text} (hname : OrNull Tree.IsText n name)
      (hplain : OrNull Tree.IsText p plain) : NameByPlace [n, p] ((name.or plain).getD [])

/-- A value names an artist. -/
def IsName (v : Tree) (t : Text) : Prop := v.IsRecord (NameByKey · t) (NameByPlace · t)

/-- A value says when a track was played. -/
def IsDate (v : Tree) (uts : Int) : Prop :=
  v.IsRecord
    (fun entries => Once (valuesUnder "uts" entries) (fun v i => v.WritesInteger .signed64 i) uts)
    (fun items => ∃ u : Tree, items = [u] ∧ u.WritesInteger .signed64 uts)

/-- The entries of an object say a track that was played lately. -/
structure RecentByKey (entries : List (Text × Tree)) (r : RecentTrack) : Prop where
  name : Once (valuesUnder "name" entries) Tree.IsText r.name
  url : Once (valuesUnder "url" entries) Tree.IsText r.url
  artist : Once (valuesUnder "artist" entries) IsName r.artist
  date : Perhaps (valuesUnder "date" entries) IsDate r.playedAt

/-- The elements of a list say a track that was played lately. -/
inductive RecentByPlace : List Tree → RecentTrack → Prop where
  | all {n u a d : Tree} {r : RecentTrack} (name : n.IsText r.name) (url : u.IsText r.url)
      (artist : IsName a r.artist) (date : OrNull IsDate d r.playedAt) : RecentByPlace [n, u, a, d] r

/-- A value says a track that was played lately. -/
def IsRecent (v : Tree) (r : RecentTrack) : Prop :=
  v.IsRecord (RecentByKey · r) (RecentByPlace · r)

/-! ## Readers of records -/

/-- A record is read as the values of its fields, put together. -/
theorem record_map_eq_ok_iff {α values slots : Type} {name : Text} {fields : Fields values slots}
    {make : values → α} {a : α} (read : values) (hmake : ∀ read', make read' = a ↔ read' = read)
    (hv : v.IsWhole room) : Reader.map make (Reader.record name fields) room v = .ok a ↔
      v.IsRecord (fields.Reads (room - 1) · read) (fields.Lists (room - 1) · read) := by
  rw [Reader.map, map_eq_ok_iff]
  simp only [hmake, exists_eq_right]
  exact Reader.record_eq_ok_iff hv

theorem artistLink_eq_ok_iff {a : ArtistLink} (hv : v.IsWhole room) :
    artistLink room v = .ok a ↔ IsLink v a := by
  refine (record_map_eq_ok_iff (a.name, a.url, ()) ?_ hv).trans (Tree.isRecord_congr ?_ ?_)
  · obtain ⟨name, url⟩ := a
    simp
  · intro entries _
    simp only [Fields.Reads, yields_required_iff, yields_default_iff, Reader.text_eq_ok_iff]
    simp (disch := decide) only [valuesUnder_filter_of_ne, and_true]
    constructor
    · rintro ⟨hname, hurl⟩
      exact ⟨hname, hurl⟩
    · exact fun h => ⟨h.name, h.url⟩
  · intro items _
    -- the link is the last field, so the list may end in front of it
    rw [Fields.lists_required_iff]
    simp only [Fields.Lists, Reader.text_eq_ok_iff]
    constructor
    · rintro ⟨n, _, rfl, hname, ⟨u, _, rfl, hurl, rfl⟩ | ⟨rfl, hurl, -⟩⟩
      · exact .both hname hurl
      · obtain ⟨name, url⟩ := a
        cases hurl
        exact .name hname
    · rintro (⟨hname, hurl⟩ | hname)
      · exact ⟨_, _, rfl, hname, .inl ⟨_, _, rfl, hurl, rfl⟩⟩
      · exact ⟨_, _, rfl, hname, .inr ⟨rfl, rfl, trivial⟩⟩

theorem rankedWork_eq_ok_iff {w : RankedWork} (hv : v.IsWhole room) :
    rankedWork room v = .ok w ↔ IsWork v w := by
  refine (record_map_eq_ok_iff (w.name, w.url, w.playcount, w.artist, ()) ?_ hv).trans
    (Tree.isRecord_congr ?_ ?_)
  · obtain ⟨name, url, playcount, artist⟩ := w
    simp
  · intro entries hentries
    simp only [Fields.Reads, yields_required_iff, Reader.text_eq_ok_iff, count_eq_ok_iff]
    simp (disch := decide) only [valuesUnder_filter_of_ne, and_true]
    have hartist : Once (valuesUnder "artist" entries)
        (fun l a => artistLink (room - 1) l = .ok a) w.artist ↔
          Once (valuesUnder "artist" entries) IsLink w.artist :=
      once_congr fun l hl => artistLink_eq_ok_iff (hv.of_mem_valuesUnder hentries _ l hl)
    rw [hartist]
    constructor
    · rintro ⟨hname, hurl, hcount, hlink⟩
      exact ⟨hname, hurl, hcount, hlink⟩
    · exact fun h => ⟨h.name, h.url, h.playcount, h.artist⟩
  · rintro items rfl
    have hlink : ∀ l ∈ items, ∀ a, artistLink (room - 1) l = .ok a ↔ IsLink l a :=
      fun l hl a => artistLink_eq_ok_iff (hv.of_mem_list l hl)
    simp only [Fields.lists_required_iff, Fields.lists_nil_iff, Reader.text_eq_ok_iff,
      count_eq_ok_iff]
    constructor
    · rintro ⟨n, _, rfl, hname, u, _, rfl, hurl, c, _, rfl, hcount, l, _, rfl, hartist, rfl⟩
      exact .all hname hurl hcount ((hlink l (by simp) _).1 hartist)
    · rintro ⟨hname, hurl, hcount, hartist⟩
      exact ⟨_, _, rfl, hname, _, _, rfl, hurl, _, _, rfl, hcount, _, _, rfl,
        (hlink _ (by simp) _).2 hartist, rfl⟩

theorem rankedArtist_eq_ok_iff {a : RankedArtist} (hv : v.IsWhole room) :
    rankedArtist room v = .ok a ↔ IsArtist v a := by
  refine (record_map_eq_ok_iff (a.name, a.url, a.playcount, ()) ?_ hv).trans
    (Tree.isRecord_congr ?_ ?_)
  · obtain ⟨name, url, playcount⟩ := a
    simp
  · intro entries _
    simp only [Fields.Reads, yields_required_iff, Reader.text_eq_ok_iff, count_eq_ok_iff]
    simp (disch := decide) only [valuesUnder_filter_of_ne, and_true]
    constructor
    · rintro ⟨hname, hurl, hcount⟩
      exact ⟨hname, hurl, hcount⟩
    · exact fun h => ⟨h.name, h.url, h.playcount⟩
  · intro items _
    simp only [Fields.lists_required_iff, Fields.lists_nil_iff, Reader.text_eq_ok_iff,
      count_eq_ok_iff]
    constructor
    · rintro ⟨n, _, rfl, hname, u, _, rfl, hurl, c, _, rfl, hcount, rfl⟩
      exact .all hname hurl hcount
    · rintro ⟨hname, hurl, hcount⟩
      exact ⟨_, _, rfl, hname, _, _, rfl, hurl, _, _, rfl, hcount, rfl⟩

theorem recentArtist_eq_ok_iff {t : Text} (hv : v.IsWhole room) :
    recentArtist room v = .ok t ↔ IsName v t := by
  have hnull : ∀ a, Reader.text (room - 1) .null ≠ .ok a := fun a => nofun
  -- the name does not tell which of the fields it is from, so the fields are not told by the name
  rw [recentArtist, Reader.map, map_eq_ok_iff]
  simp only [Reader.record_eq_ok_iff hv]
  constructor
  · rintro ⟨⟨name, plain, ⟨⟩⟩, h, rfl⟩
    rcases h with ⟨entries, hentries, h⟩ | ⟨items, hitems, h⟩
    · simp only [Fields.Reads, yields_optional_iff hnull, Reader.text_eq_ok_iff] at h
      simp (disch := decide) only [valuesUnder_filter_of_ne, and_true] at h
      exact .inl ⟨entries, hentries, .both h.1 h.2⟩
    · simp only [Fields.lists_optional_iff, Fields.lists_nil_iff, Reader.optional_eq_ok_iff hnull,
        Reader.text_eq_ok_iff] at h
      obtain ⟨n, _, rfl, hname, p, _, rfl, hplain, rfl⟩ := h
      exact .inr ⟨_, hitems, .both hname hplain⟩
  · rintro (⟨entries, hentries, @⟨name, plain, hname, hplain⟩⟩ |
      ⟨_, hitems, @⟨n, p, name, plain, hname, hplain⟩⟩)
    · refine ⟨(name, plain, ()), .inl ⟨entries, hentries, ?_⟩, rfl⟩
      simp only [Fields.Reads, yields_optional_iff hnull, Reader.text_eq_ok_iff]
      simp (disch := decide) only [valuesUnder_filter_of_ne, and_true]
      exact ⟨hname, hplain⟩
    · refine ⟨(name, plain, ()), .inr ⟨_, hitems, ?_⟩, rfl⟩
      simp only [Fields.lists_optional_iff, Fields.lists_nil_iff, Reader.optional_eq_ok_iff hnull,
        Reader.text_eq_ok_iff]
      exact ⟨_, _, rfl, hname, _, _, rfl, hplain, rfl⟩

theorem playDate_eq_ok_iff {uts : Int} (hv : v.IsWhole room) :
    playDate room v = .ok uts ↔ IsDate v uts := by
  refine (record_map_eq_ok_iff (uts, ()) (by simp) hv).trans (Tree.isRecord_congr ?_ ?_)
  · intro entries _
    simp only [Fields.Reads, yields_required_iff, seconds_eq_ok_iff, and_true]
  · intro items _
    simp only [Fields.lists_required_iff, Fields.lists_nil_iff, seconds_eq_ok_iff]
    constructor
    · rintro ⟨u, _, rfl, huts, rfl⟩
      exact ⟨u, rfl, huts⟩
    · rintro ⟨u, rfl, huts⟩
      exact ⟨u, _, rfl, huts, rfl⟩

theorem recentTrack_eq_ok_iff {r : RecentTrack} (hv : v.IsWhole room) :
    recentTrack room v = .ok r ↔ IsRecent v r := by
  have hnull : ∀ a, playDate (room - 1) .null ≠ .ok a := fun a => nofun
  refine (record_map_eq_ok_iff (r.name, r.url, r.artist, r.playedAt, ()) ?_ hv).trans
    (Tree.isRecord_congr ?_ ?_)
  · obtain ⟨name, url, artist, playedAt⟩ := r
    simp
  · intro entries hentries
    simp only [Fields.Reads, yields_required_iff, yields_optional_iff hnull, Reader.text_eq_ok_iff]
    simp (disch := decide) only [valuesUnder_filter_of_ne, and_true]
    have hartist : Once (valuesUnder "artist" entries)
        (fun a t => recentArtist (room - 1) a = .ok t) r.artist ↔
          Once (valuesUnder "artist" entries) IsName r.artist :=
      once_congr fun a ha => recentArtist_eq_ok_iff (hv.of_mem_valuesUnder hentries _ a ha)
    have hdate : Perhaps (valuesUnder "date" entries)
        (fun d uts => playDate (room - 1) d = .ok uts) r.playedAt ↔
          Perhaps (valuesUnder "date" entries) IsDate r.playedAt :=
      perhaps_congr fun d hd uts => playDate_eq_ok_iff (hv.of_mem_valuesUnder hentries _ d hd)
    rw [hartist, hdate]
    constructor
    · rintro ⟨hname, hurl, hartist, hdate⟩
      exact ⟨hname, hurl, hartist, hdate⟩
    · exact fun h => ⟨h.name, h.url, h.artist, h.date⟩
  · rintro items rfl
    have hartist : ∀ a ∈ items, ∀ t, recentArtist (room - 1) a = .ok t ↔ IsName a t :=
      fun a ha t => recentArtist_eq_ok_iff (hv.of_mem_list a ha)
    have hdate : ∀ d ∈ items, ∀ uts, playDate (room - 1) d = .ok uts ↔ IsDate d uts :=
      fun d hd uts => playDate_eq_ok_iff (hv.of_mem_list d hd)
    simp only [Fields.lists_required_iff, Fields.lists_optional_iff, Fields.lists_nil_iff,
      Reader.text_eq_ok_iff, Reader.optional_eq_ok_iff hnull]
    constructor
    · rintro ⟨n, _, rfl, hname, u, _, rfl, hurl, a, _, rfl, ha, d, _, rfl, hd, rfl⟩
      exact .all hname hurl ((hartist a (by simp) _).1 ha)
        ((orNull_congr (hdate d (by simp))).1 hd)
    · rintro ⟨hname, hurl, ha, hd⟩
      exact ⟨_, _, rfl, hname, _, _, rfl, hurl, _, _, rfl, (hartist _ (by simp) _).2 ha, _, _, rfl,
        (orNull_congr (hdate _ (by simp))).2 hd, rfl⟩

/-! ### One or many -/

theorem startsWithText_work : StartsWithText IsWork where
  text _ _ _ h := h.not_isRecord
  first items w h := by
    cases Tree.isRecord_list_iff.1 h with
    | all hname => exact ⟨_, _, _, rfl, hname⟩

theorem startsWithText_artist : StartsWithText IsArtist where
  text _ _ _ h := h.not_isRecord
  first items a h := by
    cases Tree.isRecord_list_iff.1 h with
    | all hname => exact ⟨_, _, _, rfl, hname⟩

theorem startsWithText_recent : StartsWithText IsRecent where
  text _ _ _ h := h.not_isRecord
  first items r h := by
    cases Tree.isRecord_list_iff.1 h with
    | all hname => exact ⟨_, _, _, rfl, hname⟩

end Response

end ListeningCharts
