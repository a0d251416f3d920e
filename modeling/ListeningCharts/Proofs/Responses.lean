import Mathlib.Algebra.Module.Submodule.Lattice
import Mathlib.Data.List.Permutation
import ListeningCharts.Client
import ListeningCharts.Proofs.Records
import ListeningCharts.Sample

/-! # Listings in a reply

    Which listing is read from the body of a reply.

    * **Bodies**: the records stand under a key of their own, in a page that stands under the key of
      the answer (`Carries`). They are a list of records, or one record that stands alone, or there
      are none (`Says`), and no other values are read (`parse_eq_ok_iff`).
    * **Faults**: an object without a required field, or with a number that is out of bounds or none,
      is no record (`IsFaulty`). It is refused on its own and in a list of objects.
    * **Lists as records**: in any other list such an object is refused as well, unless the list is
      itself a record by place. Then the reader takes the list for that one record (`says_list_iff`).
-/

namespace ListeningCharts

open Json

namespace Response

variable {room : Nat} {v : Tree} {entries : List (Text × Tree)} {items : List Tree}

/-! ## Bodies -/

/-- The key of the page, and that of its records. -/
def listKeys? : Family → Option (Text × Text)
  | .recent => some ("recenttracks", "track")
  | .tracks => some ("toptracks", "track")
  | .artists => some ("topartists", "artist")
  | .albums => some ("topalbums", "album")
  | .userInfo => none

/-- A value is an object with a page under one key, and the page has these values under another. -/
def HasPage (outer inner : Text) (v : Tree) (values : List Tree) : Prop :=
  ∃ entries, v.HasEntries entries ∧
    Inside outer entries fun pageEntries => valuesUnder inner pageEntries = values

/-- A value is a body for a family, with these values under the key of the records. -/
def Carries (f : Family) (v : Tree) (values : List Tree) : Prop :=
  ∃ outer inner, listKeys? f = some (outer, inner) ∧ HasPage outer inner v values

/-- The values under the key of the records say a listing: there are none, or one value, which is a
    list of records or a record. -/
def Says (values : List Tree) : Listing → Prop
  | .recent rs => Given values (Tree.IsOneOrMany IsRecent) [] rs
  | .tracks ws | .albums ws => Given values (Tree.IsOneOrMany IsWork) [] ws
  | .artists as => Given values (Tree.IsOneOrMany IsArtist) [] as
  | .userInfo _ => False

/-- A record with one field is read from what stands under its key. -/
theorem single_eq_ok_iff {α : Type} {name key : Text} {absence : Absence α} {r : Reader α} {a : α}
    (hv : v.IsWhole room) (h : v.HasEntries entries) :
    Reader.map (fun (a, ()) => a)
      (Reader.record name (Fields.cons key absence r Fields.nil)) room v = .ok a ↔
        absence.Yields (r (room - 1)) (valuesUnder key entries) a := by
  rw [record_map_eq_ok_iff (a, ()) (by simp) hv, Tree.isRecord_hasEntries_iff h]
  exact and_iff_left trivial

/-- The records of a page are read from the values under their key. -/
theorem page_eq_ok_iff {α : Type} {record record' outer inner : Text} {r : Reader α}
    {Is : Tree → α → Prop} {as : List α} {values : List Tree} (hr : r.Reads Is)
    (hfirst : StartsWithText Is) (hv : v.IsWhole room) (h : HasPage outer inner v values) :
    envelope record outer (page record' inner r) room v = .ok as ↔
      Given values (Tree.IsOneOrMany Is) [] as := by
  obtain ⟨entries, hentries, w, pageEntries, hpage, hpageEntries, rfl⟩ := h
  have hwhole : w.IsWhole (room - 1) :=
    hv.of_mem_valuesUnder hentries outer w (by rw [hpage]; exact List.mem_singleton_self w)
  have hrecords : Given (valuesUnder inner pageEntries)
      (fun w as => Reader.oneOrMany r (room - 1 - 1) w = .ok as) [] as ↔
        Given (valuesUnder inner pageEntries) (Tree.IsOneOrMany Is) [] as :=
    given_congr fun w hw => Reader.oneOrMany_eq_ok_iff hr hfirst
      (hwhole.of_mem_valuesUnder hpageEntries inner w hw)
  rw [envelope, single_eq_ok_iff hv hentries, yields_required_iff, hpage, ← hrecords,
    ← yields_default_iff]
  constructor
  · rintro ⟨_, heq, h⟩
    cases heq
    exact (single_eq_ok_iff hwhole hpageEntries).1 h
  · exact fun h => ⟨w, rfl, (single_eq_ok_iff hwhole hpageEntries).2 h⟩

/-- The records of a page are read as a listing of their family. -/
theorem map_page_eq_ok_iff {α : Type} {record record' outer inner : Text} {r : Reader α}
    {Is : Tree → α → Prop} {make : List α → Listing} {f : Family} {l : Listing}
    {values : List Tree} (hr : r.Reads Is) (hfirst : StartsWithText Is)
    (hmake : ∀ l, l.family = f ↔ ∃ as, make as = l)
    (hsaid : ∀ as, Says values (make as) ↔ Given values (Tree.IsOneOrMany Is) [] as)
    (hv : v.IsWhole room) (h : HasPage outer inner v values) :
    Reader.map make (envelope record outer (page record' inner r)) room v = .ok l ↔
      l.family = f ∧ Says values l := by
  rw [Reader.map, map_eq_ok_iff, hmake]
  simp only [page_eq_ok_iff hr hfirst hv h]
  constructor
  · rintro ⟨as, has, rfl⟩
    exact ⟨⟨as, rfl⟩, (hsaid as).2 has⟩
  · rintro ⟨⟨as, rfl⟩, has⟩
    exact ⟨as, (hsaid as).1 has, rfl⟩

/-- **A body is read as the listing that it says**, and as nothing else. -/
theorem parse_eq_ok_iff {t : Text} {f : Family} {values : List Tree} {l : Listing}
    (h : IsParsed t v) (hc : Carries f v values) :
    parse f t = .ok l ↔ l.family = f ∧ Says values l := by
  obtain ⟨outer, inner, hkeys, hpage⟩ := hc
  rw [parse, decode_of_holds h.holds]
  -- the families differ in their keys, in the reader of a record and in what a record says
  cases f with
  | recent =>
    cases hkeys
    refine map_page_eq_ok_iff (fun _ _ _ => recentTrack_eq_ok_iff) startsWithText_recent
      (fun l => ?_) (fun _ => Iff.rfl) h.whole hpage
    cases l <;> simp [Listing.family]
  | tracks =>
    cases hkeys
    refine map_page_eq_ok_iff (fun _ _ _ => rankedWork_eq_ok_iff) startsWithText_work
      (fun l => ?_) (fun _ => Iff.rfl) h.whole hpage
    cases l <;> simp [Listing.family]
  | artists =>
    cases hkeys
    refine map_page_eq_ok_iff (fun _ _ _ => rankedArtist_eq_ok_iff) startsWithText_artist
      (fun l => ?_) (fun _ => Iff.rfl) h.whole hpage
    cases l <;> simp [Listing.family]
  | albums =>
    cases hkeys
    refine map_page_eq_ok_iff (fun _ _ _ => rankedWork_eq_ok_iff) startsWithText_work
      (fun l => ?_) (fun _ => Iff.rfl) h.whole hpage
    cases l <;> simp [Listing.family]
  | userInfo => cases hkeys

/-! ## Faults -/

/-- A key that has to have a value has none. -/
def Lacks (keys : List Text) (entries : List (Text × Tree)) : Prop :=
  ∃ key ∈ keys, valuesUnder key entries = []

/-- The value under a key writes no integer within bounds. -/
def Misnumbers (key : Text) (range : IntRange) (entries : List (Text × Tree)) : Prop :=
  ∃ w, valuesUnder key entries = [w] ∧ ∀ n, ¬ w.WritesInteger range n

/-- What keeps an object from being a record of a family: a field is missing, or a number is out of
    bounds or none. -/
def Fails (entries : List (Text × Tree)) : Family → Prop
  | .recent => Lacks ["name", "url", "artist"] entries ∨ Inside "date" entries fun inner =>
      Lacks ["uts"] inner ∨ Misnumbers "uts" .signed64 inner
  | .tracks | .albums => Lacks ["name", "url", "playcount", "artist"] entries ∨
      Misnumbers "playcount" .unsigned64 entries ∨ Inside "artist" entries (Lacks ["name"])
  | .artists => Lacks ["name", "url", "playcount"] entries ∨
      Misnumbers "playcount" .unsigned64 entries
  | .userInfo => False

/-- A value is an object, but no record of a family. -/
def IsFaulty (f : Family) (v : Tree) : Prop := ∃ entries, v.HasEntries entries ∧ Fails entries f

section

variable {α : Type} {key : Text} {range : IntRange} {Is : Tree → α → Prop} {a : α}

theorem not_once_nil (h : valuesUnder key entries = []) : ¬ Once (valuesUnder key entries) Is a := by
  rintro ⟨w, hw, -⟩
  rw [h] at hw
  cases hw

theorem Misnumbers.not_once {n : Int} (h : Misnumbers key range entries)
    (hn : Once (valuesUnder key entries) (fun w i => w.WritesInteger range i) n) : False := by
  obtain ⟨w, hw, hnone⟩ := h
  obtain ⟨w', hw', hwrites⟩ := hn
  rw [hw] at hw'
  cases hw'
  exact hnone n hwrites

end

theorem not_workByKey (h : Fails entries .tracks) (w : RankedWork) : ¬ WorkByKey entries w := by
  intro hw
  rcases h with ⟨key, hkey, hnone⟩ | hcount | hartist
  · simp only [List.mem_cons, List.not_mem_nil, or_false] at hkey
    rcases hkey with rfl | rfl | rfl | rfl
    · exact not_once_nil hnone hw.name
    · exact not_once_nil hnone hw.url
    · exact not_once_nil hnone hw.playcount
    · exact not_once_nil hnone hw.artist
  · exact hcount.not_once hw.playcount
  · obtain ⟨inner, ⟨key, hkey, hnone⟩, hlink⟩ := hartist.byKey hw.artist
    rw [List.mem_singleton] at hkey
    subst hkey
    exact not_once_nil hnone hlink.name

theorem not_artistByKey (h : Fails entries .artists) (a : RankedArtist) :
    ¬ ArtistByKey entries a := by
  intro ha
  rcases h with ⟨key, hkey, hnone⟩ | hcount
  · simp only [List.mem_cons, List.not_mem_nil, or_false] at hkey
    rcases hkey with rfl | rfl | rfl
    · exact not_once_nil hnone ha.name
    · exact not_once_nil hnone ha.url
    · exact not_once_nil hnone ha.playcount
  · exact hcount.not_once ha.playcount

theorem not_recentByKey (h : Fails entries .recent) (r : RecentTrack) : ¬ RecentByKey entries r := by
  intro hr
  rcases h with ⟨key, hkey, hnone⟩ | hdate
  · simp only [List.mem_cons, List.not_mem_nil, or_false] at hkey
    rcases hkey with rfl | rfl | rfl
    · exact not_once_nil hnone hr.name
    · exact not_once_nil hnone hr.url
    · exact not_once_nil hnone hr.artist
  · have hplayed := hr.date
    cases hat : r.playedAt with
    | none =>
      -- an object is neither left out nor null
      rw [hat] at hplayed
      obtain ⟨w, inner, hw, ⟨_, rfl, -⟩, -⟩ := hdate
      rcases hplayed with hnone | hnull
      · rw [hw] at hnone
        cases hnone
      · rw [hw] at hnull
        cases hnull
    | some uts =>
      rw [hat] at hplayed
      obtain ⟨inner, hinner, huts⟩ := hdate.byKey hplayed
      rcases hinner with ⟨key, hkey, hnone⟩ | hbad
      · rw [List.mem_singleton] at hkey
        subst hkey
        exact not_once_nil hnone huts
      · exact hbad.not_once huts

theorem IsFaulty.not_isWork (h : IsFaulty .tracks v) (w : RankedWork) : ¬ IsWork v w := by
  obtain ⟨entries, hv, hfails⟩ := h
  exact fun hw => not_workByKey hfails w ((Tree.isRecord_hasEntries_iff hv).1 hw)

theorem IsFaulty.not_isArtist (h : IsFaulty .artists v) (a : RankedArtist) : ¬ IsArtist v a := by
  obtain ⟨entries, hv, hfails⟩ := h
  exact fun ha => not_artistByKey hfails a ((Tree.isRecord_hasEntries_iff hv).1 ha)

theorem IsFaulty.not_isRecent (h : IsFaulty .recent v) (r : RecentTrack) : ¬ IsRecent v r := by
  obtain ⟨entries, hv, hfails⟩ := h
  exact fun hr => not_recentByKey hfails r ((Tree.isRecord_hasEntries_iff hv).1 hr)

/-! ### Faults on their own and in lists -/

/-- The elements of a list say a listing of one record, field by field. -/
def SaysByPlace (items : List Tree) : Listing → Prop
  | .recent rs => ∃ r, rs = [r] ∧ RecentByPlace items r
  | .tracks ws | .albums ws => ∃ w, ws = [w] ∧ WorkByPlace items w
  | .artists as => ∃ a, as = [a] ∧ ArtistByPlace items a
  | .userInfo _ => False

section

variable {α : Type} {Is : Tree → α → Prop} {as : List α} {f : Family} {l : Listing}

theorem given_singleton_iff {β : Type} {S : Tree → β → Prop} {d b : β} :
    Given [v] S d b ↔ S v b := by
  constructor
  · rintro (⟨h, -⟩ | ⟨w, h, hw⟩)
    · cases h
    · cases h
      exact hw
  · exact fun h => .inr ⟨v, rfl, h⟩

/-- An object that is no record is no list of records either. -/
theorem not_isOneOrMany (hv : v.HasEntries entries) (h : ∀ a, ¬ Is v a) : ¬ v.IsOneOrMany Is as := by
  obtain ⟨_, rfl, -⟩ := hv
  rintro (⟨_, heq, -⟩ | ⟨a, -, ha⟩)
  · cases heq
  · exact h a ha

/-- A list that holds something else than records is at most one record itself. -/
theorem isOneOrMany_list_iff (h : ∃ item ∈ items, ∀ a, ¬ Is item a) :
    (Tree.list items .closed).IsOneOrMany Is as ↔ ∃ a, as = [a] ∧ Is (.list items .closed) a := by
  refine or_iff_right ?_
  rintro ⟨_, heq, hall⟩
  cases heq
  obtain ⟨item, hitem, hnone⟩ := h
  obtain ⟨i, rfl⟩ := List.get_of_mem hitem
  exact hnone _ (hall.get i.2 (hall.length_eq ▸ i.2))

/-- **An object that is no record** says no listing. -/
theorem not_says_of_isFaulty (h : IsFaulty l.family v) : ¬ Says [v] l := by
  obtain ⟨entries, hv, -⟩ := id h
  cases l with
  | recent rs => exact fun hs => not_isOneOrMany hv h.not_isRecent (given_singleton_iff.1 hs)
  | tracks ws => exact fun hs => not_isOneOrMany hv h.not_isWork (given_singleton_iff.1 hs)
  | artists as => exact fun hs => not_isOneOrMany hv h.not_isArtist (given_singleton_iff.1 hs)
  | albums ws => exact fun hs => not_isOneOrMany hv (IsFaulty.not_isWork h) (given_singleton_iff.1 hs)
  | userInfo _ => exact fun hs => hs

/-- A list that holds something else than records says at most one record, by place. -/
theorem given_list_iff {byKey : List (Text × Tree) → α → Prop} {byPlace : List Tree → α → Prop}
    (hIs : ∀ w a, Is w a ↔ w.IsRecord (byKey · a) (byPlace · a))
    (h : ∃ item ∈ items, ∀ a, ¬ Is item a) :
    Given [.list items .closed] (Tree.IsOneOrMany Is) [] as ↔ ∃ a, as = [a] ∧ byPlace items a := by
  rw [given_singleton_iff, isOneOrMany_list_iff h]
  exact exists_congr fun a => and_congr_right fun _ => (hIs _ a).trans Tree.isRecord_list_iff

/-- **A list with such an object** says a listing only if it is the one record itself. -/
theorem says_list_iff (h : ∃ item ∈ items, IsFaulty l.family item) :
    Says [.list items .closed] l ↔ SaysByPlace items l := by
  obtain ⟨item, hitem, hfaulty⟩ := h
  cases l with
  | recent rs => exact given_list_iff (fun _ _ => Iff.rfl) ⟨item, hitem, hfaulty.not_isRecent⟩
  | tracks ws => exact given_list_iff (fun _ _ => Iff.rfl) ⟨item, hitem, hfaulty.not_isWork⟩
  | artists as => exact given_list_iff (fun _ _ => Iff.rfl) ⟨item, hitem, hfaulty.not_isArtist⟩
  | albums ws =>
    exact given_list_iff (fun _ _ => Iff.rfl) ⟨item, hitem, IsFaulty.not_isWork hfaulty⟩
  | userInfo _ => exact Iff.rfl

/-- A list that says a record by place starts with a text. -/
theorem exists_text_of_saysByPlace (h : SaysByPlace items l) :
    ∃ first others t, items = first :: others ∧ first.IsText t := by
  cases l with
  | recent rs =>
    obtain ⟨r, -, ⟨hname, -, -, -⟩⟩ := h
    exact ⟨_, _, _, rfl, hname⟩
  | tracks ws | albums ws =>
    obtain ⟨w, -, ⟨hname, -, -, -⟩⟩ := h
    exact ⟨_, _, _, rfl, hname⟩
  | artists as =>
    obtain ⟨a, -, ⟨hname, -, -⟩⟩ := h
    exact ⟨_, _, _, rfl, hname⟩
  | userInfo _ => cases h

end

/-! ## Outcomes -/

/-- The listing in a body, or the error for a body that holds none. -/
def answer (f : Family) (t : Text) : Except Error Listing :=
  (parse f t).mapError fun fault => .dataSource (.malformed f.method fault)

/-- A body is refused as a whole. -/
def Refused (f : Family) (t : Text) : Prop :=
  ∃ fault, answer f t = .error (.dataSource (.malformed f.method fault))

theorem refused_of_forall_ne {f : Family} {t : Text} (h : ∀ l, parse f t ≠ .ok l) : Refused f t := by
  cases hparse : parse f t with
  | ok l => exact absurd hparse (h l)
  | error fault => exact ⟨fault, by rw [answer, hparse]; rfl⟩

end Response

open Response

/-- **Listings are read as the service writes them**, from any text that holds a whole value with a
    page for a family.

    * The listing that is read is the one that is said: a list of records in its order, one record
      that stands alone, or no record if the key of the list is missing.
    * An object that stands alone and is no record is refused.
    * So is a list of objects of which one is no record. A list that holds other things beside such an
      object is refused, too, unless it says one record itself, field by field; then it is read as
      that record alone. -/
theorem listing_read_iff {t : Text} {v : Tree} {f : Family} {values : List Tree}
    (h : IsParsed t v) (hc : Carries f v values) :
    (∀ l, answer f t = .ok l ↔ l.family = f ∧ Says values l) ∧
    (values = [] → answer f t = .ok (Listing.empty f)) ∧
    (∀ o, values = [o] → IsFaulty f o → Refused f t) ∧
    (∀ items, values = [.list items .closed] → (∃ item ∈ items, IsFaulty f item) →
      ((∀ item ∈ items, ∃ entries, item.HasEntries entries) → Refused f t) ∧
      ∀ l, answer f t = .ok l ↔ l.family = f ∧ SaysByPlace items l) := by
  have hanswer : ∀ l, answer f t = .ok l ↔ l.family = f ∧ Says values l := fun l =>
    mapError_eq_ok_iff.trans (parse_eq_ok_iff h hc)
  refine ⟨hanswer, ?_, ?_, ?_⟩
  · rintro rfl
    rw [hanswer]
    refine ⟨Listing.family_empty f, ?_⟩
    cases f with
    | userInfo =>
      obtain ⟨_, _, hkeys, -⟩ := hc
      cases hkeys
    | _ => exact .inl ⟨rfl, rfl⟩
  · rintro o rfl hfaulty
    refine refused_of_forall_ne fun l hl => ?_
    obtain ⟨rfl, hsaid⟩ := (parse_eq_ok_iff h hc).1 hl
    exact not_says_of_isFaulty hfaulty hsaid
  · rintro items rfl hfaulty
    have hplace : ∀ l, l.family = f → (Says [.list items .closed] l ↔ SaysByPlace items l) := by
      rintro l rfl
      exact says_list_iff hfaulty
    constructor
    · intro hobjects
      refine refused_of_forall_ne fun l hl => ?_
      -- a list that is a record starts with a text, and an object is none
      obtain ⟨hfamily, hsaid⟩ := (parse_eq_ok_iff h hc).1 hl
      obtain ⟨first, others, t, rfl, s, rfl, -⟩ :=
        exists_text_of_saysByPlace ((hplace l hfamily).1 hsaid)
      obtain ⟨_, _, heq, -⟩ := hobjects _ List.mem_cons_self
      cases heq
    · intro l
      rw [hanswer]
      exact and_congr_right (hplace l)

/-- A track that stands alone is read, two artists are refused if the second has no plays. -/
theorem listing_read_iff_samples :
    answer .tracks Sample.aloneBody =
      .ok (.tracks [⟨"Airbag", "https://x/t", 5, { name := "Radiohead", url := [] }⟩]) ∧
    Refused .artists Sample.lackingBody := by
  constructor
  · have hread : readTree Sample.aloneBody = (.ofEntries [("toptracks", .ofEntries [
        ("@attr", .ofEntries [("page", .string (.ofText "1"))]),
        ("track", .ofEntries [("name", .string (.ofText "Airbag")),
          ("url", .string (.ofText "https://x/t")), ("playcount", .string (.ofText " 05 ")),
          ("artist", .ofEntries [("mbid", .null), ("name", .string (.ofText "Radiohead"))])])])],
        []) := by cbv
    obtain ⟨hanswer, -⟩ := @listing_read_iff _ _ .tracks _ (IsParsed.of_readTree hread rfl rfl)
      ⟨_, _, rfl, _, Tree.hasEntries_ofEntries _, _, _, rfl, Tree.hasEntries_ofEntries _, rfl⟩
    refine (hanswer _).2 ⟨rfl, ?_⟩
    have hcount : (Tree.string (.ofText " 05 ")).WritesInteger .unsigned64 ((5 : Nat) : Int) :=
      .text (StringToken.text_ofText _) (.plain ⟨by decide, List.all_eq_true.1 (by decide)⟩)
        (by decide) (by decide)
    have hartist : IsLink (.ofEntries [("mbid", .null), ("name", .string (.ofText "Radiohead"))])
        ⟨"Radiohead", []⟩ :=
      .inl ⟨_, Tree.hasEntries_ofEntries _, ⟨_, rfl, Tree.isText_ofText _⟩, .inl ⟨rfl, rfl⟩⟩
    exact .inr ⟨_, rfl, .inr ⟨_, rfl, .inl ⟨_, Tree.hasEntries_ofEntries _,
      ⟨_, rfl, Tree.isText_ofText _⟩, ⟨_, rfl, Tree.isText_ofText _⟩, ⟨_, rfl, hcount⟩,
      ⟨_, rfl, hartist⟩⟩⟩⟩
  · have hread : readTree Sample.lackingBody = (.ofEntries [("topartists", .ofEntries [
        ("artist", .list [
          .ofEntries [("name", .string (.ofText "Radiohead")), ("url", .string (.ofText "https://x/r")),
            ("playcount", .number (.ofNat 7))],
          .ofEntries [("name", .string (.ofText "Portishead")),
            ("url", .string (.ofText "https://x/p"))]] .closed)])], []) := by cbv
    obtain ⟨-, -, -, hlist⟩ := @listing_read_iff _ _ .artists _ (IsParsed.of_readTree hread rfl rfl)
      ⟨_, _, rfl, _, Tree.hasEntries_ofEntries _, _, _, rfl, Tree.hasEntries_ofEntries _, rfl⟩
    refine (hlist _ rfl ⟨_, List.mem_cons_of_mem _ List.mem_cons_self, _,
      Tree.hasEntries_ofEntries _, .inl ⟨"playcount", by simp, rfl⟩⟩).1 fun item hitem => ?_
    simp only [List.mem_cons, List.not_mem_nil, or_false] at hitem
    rcases hitem with rfl | rfl
    · exact ⟨_, Tree.hasEntries_ofEntries _⟩
    · exact ⟨_, Tree.hasEntries_ofEntries _⟩

/-- A list that holds an object without most fields of a track is not refused: it is itself read as
    one track. -/
theorem not_refused_fieldsBody :
    ¬ ∀ (t : Text) (v : Tree) (f : Family) (items : List Tree), IsParsed t v →
      Carries f v [.list items .closed] → (∃ item ∈ items, IsFaulty f item) → Refused f t := by
  intro h
  have hread : readTree Sample.fieldsBody = (.ofEntries [("toptracks", .ofEntries [("track", .list
      [.string (.ofText "Airbag"), .string (.ofText "https://x/a"), .number (.ofNat 5),
        .ofEntries [("name", .string (.ofText "Radiohead"))]] .closed)])], []) := by cbv
  have hparse : parse .tracks Sample.fieldsBody =
      .ok (.tracks [⟨"Airbag", "https://x/a", 5, { name := "Radiohead", url := [] }⟩]) := by
    decide +kernel
  obtain ⟨fault, hrefused⟩ := h _ _ .tracks _ (IsParsed.of_readTree hread rfl rfl)
    ⟨_, _, rfl, _, Tree.hasEntries_ofEntries _, _, _, rfl, Tree.hasEntries_ofEntries _, rfl⟩
    ⟨_, List.mem_of_getLast? rfl, _, Tree.hasEntries_ofEntries _, .inl ⟨"url", by simp, rfl⟩⟩
  rw [answer, hparse] at hrefused
  cases hrefused

end ListeningCharts
