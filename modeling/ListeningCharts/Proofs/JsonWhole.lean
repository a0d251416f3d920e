import ListeningCharts.Proofs.JsonRecords

/-! # JSON values in whole

    A value is taken in whole if every list and object in it is closed and within the depth, every
    number is one of 64 bits or in floating point, and every string is a text (`Tree.IsWhole`). Such
    values are what a text holds, with no word on how it is written.

    * **Entries**: an object has texts as keys, and its values are whole (`Tree.isWhole_object_iff`).
    * **Records**: a record is read from an object by the keys of its fields, and from a list by
      their places (`Reader.record_eq_ok_iff`).
    * **One or many**: where a record may stand for a list of one, the two readings exclude each other
      if no record is a text and a list that is a record starts with one
      (`Reader.oneOrMany_eq_ok_iff`).
-/

namespace ListeningCharts.Json

/-! ## Whole values -/

/-- A value can be taken in whole, with this many lists and objects still to be entered. -/
def Tree.IsWhole (room : Nat) (v : Tree) : Prop := checkWhole room v = .ok ()

/-- A value is an object with these entries, in the order in which they are written. -/
def Tree.HasEntries (v : Tree) (entries : List (Text × Tree)) : Prop :=
  ∃ members, v = .object members .closed ∧ Keyed members entries

/-- An object with these entries, with no more escapes in its keys than it needs. -/
def Tree.ofEntries (entries : List (Text × Tree)) : Tree :=
  .object (entries.map fun e => (.ofText e.1, e.2)) .closed

theorem Tree.hasEntries_ofEntries (entries : List (Text × Tree)) :
    (ofEntries entries).HasEntries entries := by
  refine ⟨_, rfl, ?_⟩
  induction entries with
  | nil => exact .nil
  | cons e entries ih => exact .cons ⟨StringToken.text_ofText e.1, rfl⟩ ih

/-- A text holds a value, whole. -/
structure IsParsed (t : Text) (v : Tree) : Prop where
  holds : Holds t v
  whole : v.IsWhole maxDepth

theorem IsParsed.of_readTree {t : Text} {v : Tree} (hread : readTree t = (v, []))
    (hbroken : v.isBroken = false) (hwhole : v.IsWhole maxDepth) : IsParsed t v :=
  ⟨readTree_eq_iff.1 ⟨hread, hbroken⟩, hwhole⟩

section

variable {room : Nat} {v : Tree} {items : List Tree} {entries entries' : List (Text × Tree)}

theorem Tree.HasEntries.unique (h : v.HasEntries entries) (h' : v.HasEntries entries') :
    entries = entries' := by
  obtain ⟨members, rfl, hkeyed⟩ := h
  obtain ⟨members', heq, hkeyed'⟩ := h'
  cases heq
  exact hkeyed.unique hkeyed'

theorem checkItems_eq_ok_iff :
    checkItems room items = .ok () ↔ ∀ item ∈ items, item.IsWhole room := by
  induction items with
  | nil => simp [checkItems]
  | cons item items ih =>
    rw [checkItems, bind_eq_ok_iff, List.forall_mem_cons, ← ih]
    exact ⟨fun ⟨⟨⟩, h, hitems⟩ => ⟨h, hitems⟩, fun ⟨h, hitems⟩ => ⟨(), h, hitems⟩⟩

theorem checkMembers_eq_ok_iff {members : List (StringToken × Tree)} :
    checkMembers room members = .ok () ↔
      ∃ entries, Keyed members entries ∧ ∀ e ∈ entries, e.2.IsWhole room := by
  induction members with
  | nil => exact ⟨fun _ => ⟨[], .nil, nofun⟩, fun _ => rfl⟩
  | cons m members ih =>
    obtain ⟨k, v⟩ := m
    rw [checkMembers, bind_eq_ok_iff]
    simp only [bind_eq_ok_iff, ih]
    constructor
    · rintro ⟨key, hkey, ⟨⟩, hv, entries, hkeyed, hwhole⟩
      exact ⟨(key, v) :: entries, .cons ⟨hkey, rfl⟩ hkeyed, List.forall_mem_cons.2 ⟨hv, hwhole⟩⟩
    · rintro ⟨_, hkeyed, hwhole⟩
      cases hkeyed with
      | cons hm hkeyed =>
        obtain ⟨hv, hwhole⟩ := List.forall_mem_cons.1 hwhole
        rw [← hm.2] at hv
        exact ⟨_, hm.1, (), hv, _, hkeyed, hwhole⟩

theorem ListEnd.raise_wanted_iff {ending : ListEnd} :
    raise ending.wanted = .ok () ↔ ending = .closed := by
  cases ending <;> simp [raise, ListEnd.wanted]

theorem ObjectEnd.raise_wanted_iff {ending : ObjectEnd} :
    raise ending.wanted = .ok () ↔ ending = .closed := by
  cases ending <;> simp [raise, ObjectEnd.wanted]

theorem enter_eq_ok_iff {inner : Nat} : enter room = .ok inner ↔ room = inner + 1 := by
  cases room <;> simp [enter]

/-- A list is whole if it is closed and its elements are whole. -/
theorem Tree.isWhole_list_iff {ending : ListEnd} : (Tree.list items ending).IsWhole room ↔
    ending = .closed ∧ ∃ inner, room = inner + 1 ∧ ∀ item ∈ items, item.IsWhole inner := by
  rw [IsWhole, checkWhole, bind_eq_ok_iff]
  simp only [bind_eq_ok_iff, enter_eq_ok_iff, ListEnd.raise_wanted_iff]
  constructor
  · rintro ⟨inner, hroom, ⟨⟩, hitems, hending⟩
    exact ⟨hending, inner, hroom, checkItems_eq_ok_iff.1 hitems⟩
  · rintro ⟨hending, inner, hroom, hitems⟩
    exact ⟨inner, hroom, (), checkItems_eq_ok_iff.2 hitems, hending⟩

/-- An object is whole if it is closed, its keys are texts and its values are whole. -/
theorem Tree.isWhole_object_iff {members : List (StringToken × Tree)} {ending : ObjectEnd} :
    (Tree.object members ending).IsWhole room ↔ ending = .closed ∧ ∃ inner, room = inner + 1 ∧
      ∃ entries, Keyed members entries ∧ ∀ e ∈ entries, e.2.IsWhole inner := by
  rw [IsWhole, checkWhole, bind_eq_ok_iff]
  simp only [bind_eq_ok_iff, enter_eq_ok_iff, ObjectEnd.raise_wanted_iff]
  constructor
  · rintro ⟨inner, hroom, ⟨⟩, hmembers, hending⟩
    exact ⟨hending, inner, hroom, checkMembers_eq_ok_iff.1 hmembers⟩
  · rintro ⟨hending, inner, hroom, hmembers⟩
    exact ⟨inner, hroom, (), checkMembers_eq_ok_iff.2 hmembers, hending⟩

theorem Tree.IsWhole.of_mem_list (h : (Tree.list items .closed).IsWhole room) :
    ∀ item ∈ items, item.IsWhole (room - 1) := by
  obtain ⟨-, inner, rfl, hitems⟩ := isWhole_list_iff.1 h
  exact hitems

theorem Tree.IsWhole.of_mem_entries (h : v.IsWhole room) (hv : v.HasEntries entries) :
    ∀ e ∈ entries, e.2.IsWhole (room - 1) := by
  obtain ⟨members, rfl, hkeyed⟩ := hv
  obtain ⟨-, inner, rfl, entries', hkeyed', hwhole⟩ := isWhole_object_iff.1 h
  obtain rfl := hkeyed.unique hkeyed'
  exact hwhole

theorem mem_valuesUnder {key : Text} : v ∈ valuesUnder key entries ↔ (key, v) ∈ entries := by
  simp [valuesUnder]

theorem Tree.IsWhole.of_mem_valuesUnder (h : v.IsWhole room) (hv : v.HasEntries entries) (key : Text) :
    ∀ w ∈ valuesUnder key entries, w.IsWhole (room - 1) :=
  fun _ hw => h.of_mem_entries hv _ (mem_valuesUnder.1 hw)

end

/-! ### Whole values can be skipped -/

theorem ending_of_readPieces {ending : StringEnd} {pieces : List StringPiece} {t : Text}
    (h : readPieces ending pieces = .ok t) : ending = .closed := by
  -- the end is looked at when no piece is left; half a surrogate pair is refused before that
  fun_induction readPieces ending pieces generalizing t with
  | case1 hnone => cases ending <;> first | rfl | cases hnone
  | case3 c rest ih =>
    obtain ⟨u, hu, -⟩ := map_eq_ok_iff.1 h
    exact ih hu
  | case5 =>
    rename_i ih
    obtain ⟨u, hu, -⟩ := map_eq_ok_iff.1 h
    exact ih hu
  | case11 _ _ _ _ ih =>
    obtain ⟨u, hu, -⟩ := map_eq_ok_iff.1 h
    exact ih hu
  | _ => cases h

/-- A string that holds a text is closed. -/
theorem StringToken.ending_of_text {s : StringToken} {t : Text} (h : s.text = .ok t) :
    s.ending = .closed := ending_of_readPieces h

mutual

theorem Tree.IsWhole.skip {room : Nat} {v : Tree} (h : v.IsWhole room) : Json.skip v = .ok () := by
  match v with
  | .null | .boolean _ | .number _ => rw [Json.skip]
  | .missing _ => cases h
  | .keyless =>
    obtain ⟨_, -, h⟩ := bind_eq_ok_iff.1 h
    cases h
  | .string s =>
    obtain ⟨t, ht, -⟩ := map_eq_ok_iff.1 h
    rw [Json.skip, StringToken.ending_of_text ht]
    rfl
  | .list items ending =>
    obtain ⟨rfl, inner, -, hitems⟩ := Tree.isWhole_list_iff.1 h
    rw [Json.skip, skipItems_of_isWhole hitems]
    rfl
  | .object members ending =>
    obtain ⟨rfl, inner, -, entries, hkeyed, hwhole⟩ := Tree.isWhole_object_iff.1 h
    rw [Json.skip, skipMembers_of_isWhole hkeyed hwhole]
    rfl

theorem skipItems_of_isWhole {room : Nat} {items : List Tree}
    (h : ∀ item ∈ items, item.IsWhole room) : skipItems items = .ok () := by
  match items with
  | [] => rw [skipItems]
  | item :: items =>
    obtain ⟨hitem, hitems⟩ := List.forall_mem_cons.1 h
    rw [skipItems, hitem.skip]
    exact skipItems_of_isWhole hitems

theorem skipMembers_of_isWhole {room : Nat} {members : List (StringToken × Tree)}
    {entries : List (Text × Tree)} (hkeyed : Keyed members entries)
    (h : ∀ e ∈ entries, e.2.IsWhole room) : skipMembers members = .ok () := by
  match members, entries, hkeyed with
  | [], _, _ => rw [skipMembers]
  | (k, v) :: members, (key, w) :: entries, .cons hm hkeyed =>
    obtain ⟨hvalue, hvalues⟩ := List.forall_mem_cons.1 h
    have hv : v = w := hm.2
    subst hv
    rw [skipMembers, StringToken.ending_of_text hm.1, hvalue.skip]
    exact skipMembers_of_isWhole hkeyed hvalues

end

/-! ## Values under a key and in a place -/

section

variable {α : Type} {values : List Tree} {Says Says' : Tree → α → Prop} {a : α}

/-- A key has one value, which says `a`. -/
def Once (values : List Tree) (Says : Tree → α → Prop) (a : α) : Prop :=
  ∃ v, values = [v] ∧ Says v a

/-- A key has no value, or `null`, exactly if nothing is said. -/
def Perhaps (values : List Tree) (Says : Tree → α → Prop) : Option α → Prop
  | none => values = [] ∨ values = [.null]
  | some a => Once values Says a

/-- A value says something, or is `null` exactly if nothing is said. -/
def OrNull (Says : Tree → α → Prop) (v : Tree) : Option α → Prop
  | none => v = .null
  | some a => Says v a

/-- The value under a key is an object, and something holds of its entries. -/
def Inside (key : Text) (entries : List (Text × Tree)) (holds : List (Text × Tree) → Prop) : Prop :=
  ∃ v inner, valuesUnder key entries = [v] ∧ v.HasEntries inner ∧ holds inner

theorem once_congr (h : ∀ v ∈ values, Says v a ↔ Says' v a) :
    Once values Says a ↔ Once values Says' a := by
  refine exists_congr fun v => and_congr_right fun hv => h v ?_
  rw [hv]
  exact List.mem_singleton_self v

theorem perhaps_congr (h : ∀ v ∈ values, ∀ a, Says v a ↔ Says' v a) {o : Option α} :
    Perhaps values Says o ↔ Perhaps values Says' o := by
  cases o with
  | none => exact Iff.rfl
  | some a => exact once_congr fun v hv => h v hv a

theorem orNull_congr {v : Tree} (h : ∀ a, Says v a ↔ Says' v a) {o : Option α} :
    OrNull Says v o ↔ OrNull Says' v o := by
  cases o with
  | none => exact Iff.rfl
  | some a => exact h a

theorem yields_required_iff {read : Tree → Except Fault α} :
    Absence.required.Yields read values a ↔ Once values (fun v a => read v = .ok a) a := by
  constructor
  · rintro (⟨h⟩ | ⟨⟨⟩⟩)
    exact ⟨_, rfl, h⟩
  · rintro ⟨v, rfl, h⟩
    exact .given h

/-- What may be `null` is read as what it says, if `null` says nothing. -/
theorem Reader.optional_eq_ok_iff {r : Reader α} {room : Nat} (hnull : ∀ a, r room .null ≠ .ok a)
    {v : Tree} {o : Option α} :
    Reader.optional r room v = .ok o ↔ OrNull (fun v a => r room v = .ok a) v o := by
  by_cases hv : v = .null
  · subst hv
    cases o with
    | none => exact ⟨fun _ => rfl, fun _ => rfl⟩
    | some a => exact ⟨nofun, fun h => absurd h (hnull a)⟩
  · have hread : Reader.optional r room v = (r room v).map some := by
      rw [Reader.optional]
      exact fun h => hv h
    rw [hread, map_eq_ok_iff]
    cases o with
    | none => exact ⟨nofun, fun h => absurd h hv⟩
    | some a =>
      simp only [Option.some.injEq, exists_eq_right]
      exact Iff.rfl

theorem yields_optional_iff {r : Reader α} {room : Nat} (hnull : ∀ a, r room .null ≠ .ok a)
    {o : Option α} : (Absence.optional none).Yields (Reader.optional r room) values o ↔
      Perhaps values (fun v a => r room v = .ok a) o := by
  constructor
  · intro h
    cases h with
    | given h =>
      rw [Reader.optional_eq_ok_iff hnull] at h
      cases o with
      | none => exact .inr (congrArg (fun v => [v]) h)
      | some a => exact ⟨_, rfl, h⟩
    | absent h =>
      cases h
      exact .inl rfl
  · intro h
    cases o with
    | none =>
      rcases h with rfl | rfl
      · exact .absent rfl
      · exact .given rfl
    | some a =>
      obtain ⟨v, rfl, h⟩ := h
      exact .given ((Reader.optional_eq_ok_iff hnull).2 h)

end

/-! ## Records -/

/-- A value is a record: an object of whose entries something holds, or a list of whose elements
    something does. -/
def Tree.IsRecord (byKey : List (Text × Tree) → Prop) (byPlace : List Tree → Prop) (v : Tree) :
    Prop :=
  (∃ entries, v.HasEntries entries ∧ byKey entries) ∨ ∃ items, v = .list items .closed ∧ byPlace items

theorem Tree.IsText.not_isRecord {byKey : List (Text × Tree) → Prop} {byPlace : List Tree → Prop}
    {v : Tree} {t : Text} (h : v.IsText t) : ¬ v.IsRecord byKey byPlace := by
  obtain ⟨s, rfl, -⟩ := h
  rintro (⟨_, ⟨_, h, -⟩, -⟩ | ⟨_, h, -⟩) <;> cases h

/-- An object is a record by its keys, a list by its places. -/
theorem Tree.isRecord_hasEntries_iff {byKey : List (Text × Tree) → Prop}
    {byPlace : List Tree → Prop} {v : Tree} {entries : List (Text × Tree)}
    (h : v.HasEntries entries) : v.IsRecord byKey byPlace ↔ byKey entries := by
  constructor
  · rintro (⟨entries', h', hkey⟩ | ⟨items, rfl, -⟩)
    · rw [h.unique h']
      exact hkey
    · obtain ⟨_, h, -⟩ := h
      cases h
  · exact fun hkey => .inl ⟨entries, h, hkey⟩

/-- An object under a key is a record by its keys. -/
theorem Inside.byKey {key : Text} {entries : List (Text × Tree)}
    {holds byKey : List (Text × Tree) → Prop} {byPlace : List Tree → Prop}
    (h : Inside key entries holds)
    (hrecord : ∃ v, valuesUnder key entries = [v] ∧ v.IsRecord byKey byPlace) :
    ∃ inner, holds inner ∧ byKey inner := by
  obtain ⟨v, inner, hv, hinner, hholds⟩ := h
  obtain ⟨v', hv', hrecord⟩ := hrecord
  rw [hv] at hv'
  cases hv'
  exact ⟨inner, hholds, (Tree.isRecord_hasEntries_iff hinner).1 hrecord⟩

theorem Tree.isRecord_list_iff {byKey : List (Text × Tree) → Prop} {byPlace : List Tree → Prop}
    {items : List Tree} : (Tree.list items .closed).IsRecord byKey byPlace ↔ byPlace items := by
  constructor
  · rintro (⟨_, ⟨_, h, -⟩, -⟩ | ⟨_, h, hplace⟩)
    · cases h
    · cases h
      exact hplace
  · exact fun hplace => .inr ⟨items, rfl, hplace⟩

theorem Tree.isRecord_congr {byKey byKey' : List (Text × Tree) → Prop}
    {byPlace byPlace' : List Tree → Prop} {v : Tree}
    (hkey : ∀ entries, v.HasEntries entries → (byKey entries ↔ byKey' entries))
    (hplace : ∀ items, v = .list items .closed → (byPlace items ↔ byPlace' items)) :
    v.IsRecord byKey byPlace ↔ v.IsRecord byKey' byPlace' :=
  or_congr (exists_congr fun entries => and_congr_right (hkey entries))
    (exists_congr fun items => and_congr_right (hplace items))

/-- The fields take their values from the elements of a list, in order. -/
def Fields.Lists (room : Nat) {values slots : Type} :
    Fields values slots → List Tree → values → Prop
  | nil, items, () => items = []
  | cons _ absence reader rest, items, (v, vs) =>
    (∃ item others, items = item :: others ∧ reader room item = .ok v ∧ rest.Lists room others vs) ∨
      items = [] ∧ absence = .default v ∧ rest.Lists room [] vs

section

variable {values slots : Type} {name : Text} {fields : Fields values slots} {room : Nat} {v : Tree}
  {items : List Tree} {entries : List (Text × Tree)} {read : values}

theorem Fields.readListed_eq_ok_iff {count index : Nat} :
    fields.readListed name count room .closed index items = .ok read ↔
      fields.Lists room items read := by
  induction fields generalizing items index with
  | nil =>
    cases items with
    | nil => exact ⟨fun _ => rfl, fun _ => rfl⟩
    | cons item items => exact ⟨nofun, nofun⟩
  | cons key absence reader rest ih =>
    obtain ⟨a, as⟩ := read
    rw [Lists]
    cases items with
    | nil =>
      -- nothing is left in the list, so only a default can stand in
      cases absence with
      | default d =>
        rw [readListed]
        simp only [bind_eq_ok_iff]
        constructor
        · rintro ⟨-, -, others, hothers, h⟩
          cases h
          exact .inr ⟨trivial, rfl, ih.1 hothers⟩
        · rintro (⟨_, _, h, -⟩ | ⟨-, h, hothers⟩)
          · cases h
          · cases h
            exact ⟨(), rfl, as, ih.2 hothers, rfl⟩
      | _ =>
        refine ⟨nofun, ?_⟩
        rintro (⟨_, _, h, -⟩ | ⟨-, h, -⟩) <;> cases h
    | cons item items =>
      rw [readListed]
      simp only [bind_eq_ok_iff]
      constructor
      · rintro ⟨_, hread, _, hothers, h⟩
        cases h
        exact .inl ⟨item, items, rfl, hread, ih.1 hothers⟩
      · rintro (⟨_, _, h, hread, hothers⟩ | ⟨h, -⟩)
        · cases h
          exact ⟨a, hread, as, ih.2 hothers, rfl⟩
        · cases h

/-- No element is left behind the last field. -/
theorem Fields.lists_nil_iff : nil.Lists room items () ↔ items = [] := Iff.rfl

/-- A field without a default takes the first of the elements that are left. -/
theorem Fields.lists_required_iff {α : Type} {key : Text} {reader : Reader α} {a : α} :
    (cons key .required reader fields).Lists room items (a, read) ↔
      ∃ item others, items = item :: others ∧ reader room item = .ok a ∧
        fields.Lists room others read := or_iff_left fun h => nomatch h.2.1

theorem Fields.lists_optional_iff {α : Type} {key : Text} {reader : Reader α} {a d : α} :
    (cons key (.optional d) reader fields).Lists room items (a, read) ↔
      ∃ item others, items = item :: others ∧ reader room item = .ok a ∧
        fields.Lists room others read := or_iff_left fun h => nomatch h.2.1

/-- A record is read from an object by the keys of its fields. -/
theorem Reader.record_of_hasEntries (hv : v.IsWhole room) (h : v.HasEntries entries) :
    Reader.record name fields room v = .ok read ↔ fields.Reads (room - 1) entries read := by
  have hskip : ∀ e ∈ entries, skip e.2 = .ok () := fun e he => (hv.of_mem_entries h e he).skip
  obtain ⟨members, rfl, hkeyed⟩ := h
  obtain ⟨-, inner, rfl, -⟩ := Tree.isWhole_object_iff.1 hv
  rw [← Fields.reads_iff hskip, Reader.record, bind_eq_ok_iff]
  simp only [bind_eq_ok_iff, enter_eq_ok_iff, Fields.putAll_of_keyed hkeyed]
  constructor
  · rintro ⟨_, hroom, found, hput, -, -, hcomplete⟩
    cases hroom
    exact ⟨found, hput, hcomplete⟩
  · rintro ⟨found, hput, hcomplete⟩
    exact ⟨inner, rfl, found, hput, (), rfl, hcomplete⟩

/-- A record is read from a list by the places of its fields. -/
theorem Reader.record_of_list (hv : (Tree.list items .closed).IsWhole room) :
    Reader.record name fields room (.list items .closed) = .ok read ↔
      fields.Lists (room - 1) items read := by
  obtain ⟨-, inner, rfl, -⟩ := Tree.isWhole_list_iff.1 hv
  exact Fields.readListed_eq_ok_iff

/-- **A record is read from an object or from a list**, and from nothing else. -/
theorem Reader.record_eq_ok_iff (hv : v.IsWhole room) :
    Reader.record name fields room v = .ok read ↔
      v.IsRecord (fields.Reads (room - 1) · read) (fields.Lists (room - 1) · read) := by
  cases v with
  | object members ending =>
    obtain ⟨rfl, -, -, entries, hkeyed, -⟩ := Tree.isWhole_object_iff.1 hv
    have hentries : (Tree.object members .closed).HasEntries entries := ⟨members, rfl, hkeyed⟩
    rw [record_of_hasEntries hv hentries, Tree.isRecord_hasEntries_iff hentries]
  | list items ending =>
    obtain ⟨rfl, -⟩ := Tree.isWhole_list_iff.1 hv
    rw [record_of_list hv, Tree.isRecord_list_iff]
  | keyless =>
    obtain ⟨_, -, h⟩ := bind_eq_ok_iff.1 hv
    cases h
  | _ =>
    refine ⟨fun h => by simp only [Reader.record, mismatch_ne_ok] at h, ?_⟩
    rintro (⟨_, ⟨_, h, -⟩, -⟩ | ⟨_, h, -⟩) <;> cases h

end

/-! ## One or many -/

section

variable {α : Type} {room : Nat} {v : Tree} {items : List Tree} {as : List α}

/-- A value is a list of what `Is` says, or one such value that stands alone. -/
def Tree.IsOneOrMany (Is : Tree → α → Prop) (v : Tree) (as : List α) : Prop :=
  (∃ items, v = .list items .closed ∧ List.Forall₂ Is items as) ∨ ∃ a, as = [a] ∧ Is v a

/-- What is read from whole values is what `Is` says. -/
def Reader.Reads (r : Reader α) (Is : Tree → α → Prop) : Prop :=
  ∀ room v a, v.IsWhole room → (r room v = .ok a ↔ Is v a)

/-- No text is a record, and a list that is a record starts with a text. -/
structure StartsWithText (Is : Tree → α → Prop) : Prop where
  text : ∀ v t a, v.IsText t → ¬ Is v a
  first : ∀ items a, Is (.list items .closed) a → ∃ item others t, items = item :: others ∧ item.IsText t

/-- **A list of records or one record is read**, and never the one for the other. -/
theorem Reader.oneOrMany_eq_ok_iff {r : Reader α} {Is : Tree → α → Prop}
    (hr : r.Reads Is) (hfirst : StartsWithText Is) (hv : v.IsWhole room) :
    Reader.oneOrMany r room v = .ok as ↔ v.IsOneOrMany Is as := by
  have hmany : ∀ as, Reader.list r room v = .ok as ↔
      ∃ items, v = .list items .closed ∧ List.Forall₂ Is items as := by
    intro as
    cases v with
    | list items ending =>
      obtain ⟨-, inner, rfl, hitems⟩ := Tree.isWhole_list_iff.1 hv
      rw [list_eq_ok_iff]
      refine exists_congr fun items' => and_congr_right fun heq => ?_
      cases heq
      constructor
      · intro h
        exact ((List.forall₂_and_left _ _).2 ⟨hitems, h⟩).imp fun w a ⟨hw, h⟩ => (hr inner w a hw).1 h
      · intro h
        exact ((List.forall₂_and_left _ _).2 ⟨hitems, h⟩).imp fun w a ⟨hw, h⟩ => (hr inner w a hw).2 h
    | _ => exact ⟨fun h => by simp only [Reader.list, mismatch_ne_ok] at h, by rintro ⟨_, ⟨⟩, -⟩⟩
  have hone : Reader.map (fun a => [a]) r room v = .ok as ↔ ∃ a, as = [a] ∧ Is v a := by
    rw [Reader.map, map_eq_ok_iff]
    exact exists_congr fun a => by rw [hr room v a hv, and_comm, eq_comm]
  rw [Reader.oneOrMany, firstOf_eq_ok_iff, Tree.IsOneOrMany, hone, hmany]
  constructor
  · rintro ⟨-, h | ⟨-, h⟩⟩
    · exact .inl h
    · exact .inr h
  · rintro (h | ⟨a, rfl, ha⟩)
    · exact ⟨hv, .inl h⟩
    -- a list that is a record holds a text, which is no record
    · refine ⟨hv, .inr ⟨fun as' h => ?_, a, rfl, ha⟩⟩
      obtain ⟨items, rfl, hitems⟩ := (hmany as').1 h
      obtain ⟨item, others, t, rfl, ht⟩ := hfirst.first items a ha
      cases hitems with
      | cons hitem _ => exact hfirst.text item t _ ht hitem

end

end ListeningCharts.Json
