import ListeningCharts.Json.Reader
import ListeningCharts.Proofs.JsonGrammar
import ListeningCharts.Proofs.Outcomes

/-! # JSON records

    Which texts a record is read from, and which values.

    * **Entries**: an object is a list of keys with their values, in the order in which they are
      written (`IsObject`). A key counts by its text, however that is escaped.
    * **Values**: when an integer, a name of a list and a list of such values are read.
    * **Fields**: a field takes the value under its key, which may stand there once, or else its
      default (`Fields.Reads`). What stands under other keys is skipped, and the outcome is the same
      without it (`decode_record_congr`).
    * So a record is read from a text that starts with a brace exactly if the text is an object with
      such entries (`decode_record_eq_ok_iff`).
-/

namespace ListeningCharts.Json

/-! ## Values that are skipped -/

mutual

/-- A whole value can be skipped. -/
theorem Tree.Spelled.skip {v : Tree} {s : Text} (h : v.Spelled s) : Json.skip v = .ok () := by
  match h with
  | .nullName | .trueName | .falseName | .number _ _ | .negative _ _ => rw [Json.skip]
  | .string hk =>
    rw [Json.skip, hk.closed]
    rfl
  | .emptyList _ =>
    rw [Json.skip, skipItems]
    rfl
  | .list _ hitems =>
    rw [Json.skip, hitems.skip]
    rfl
  | .emptyObject _ =>
    rw [Json.skip, skipMembers]
    rfl
  | .object _ hmembers =>
    rw [Json.skip, hmembers.skip]
    rfl

theorem ItemsSpelled.skip {items : List Tree} {s : Text} (h : ItemsSpelled items s) :
    skipItems items = .ok () := by
  match h with
  | .last hv _ =>
    rw [skipItems, hv.skip, skipItems]
    rfl
  | .more hv _ _ hitems =>
    rw [skipItems, hv.skip]
    exact hitems.skip

theorem MembersSpelled.skip {members : List (StringToken × Tree)} {s : Text}
    (h : MembersSpelled members s) : skipMembers members = .ok () := by
  match h with
  | .last hk _ _ hv _ =>
    rw [skipMembers, hk.closed, hv.skip, skipMembers]
    rfl
  | .more hk _ _ hv _ _ hmembers =>
    rw [skipMembers, hk.closed, hv.skip]
    exact hmembers.skip

end

theorem skip_of_mem_skipMembers {members : List (StringToken × Tree)}
    (h : skipMembers members = .ok ()) : ∀ m ∈ members, skip m.2 = .ok () := by
  induction members with
  | nil => nofun
  | cons m members ih =>
    obtain ⟨k, v⟩ := m
    rw [skipMembers] at h
    obtain ⟨_, -, h⟩ := bind_eq_ok_iff.1 h
    obtain ⟨_, hv, h⟩ := bind_eq_ok_iff.1 h
    exact List.forall_mem_cons.2 ⟨hv, ih h⟩

/-- The values in an object can be skipped. -/
theorem Tree.Spelled.skip_of_mem {members : List (StringToken × Tree)} {s : Text}
    (h : (Tree.object members .closed).Spelled s) : ∀ m ∈ members, Json.skip m.2 = .ok () := by
  have hskip := h.skip
  rw [Json.skip] at hskip
  obtain ⟨_, hmembers, -⟩ := bind_eq_ok_iff.1 hskip
  exact skip_of_mem_skipMembers hmembers

/-! ## Entries -/

/-- The keys of the members, as texts, with their values. -/
abbrev Keyed (members : List (StringToken × Tree)) (entries : List (Text × Tree)) : Prop :=
  List.Forall₂ (fun m e => m.1.text = .ok e.1 ∧ m.2 = e.2) members entries

/-- A text is one object with these entries, in the order in which they are written. -/
def IsObject (t : Text) (entries : List (Text × Tree)) : Prop :=
  ∃ members, Holds t (.object members .closed) ∧ Keyed members entries

/-- The values that stand under a key. -/
def valuesUnder (key : Text) (entries : List (Text × Tree)) : List Tree :=
  (entries.filter fun e => e.1 = key).map Prod.snd

theorem valuesUnder_filter_of_ne {key key' : Text} (h : key ≠ key') (entries : List (Text × Tree)) :
    valuesUnder key (entries.filter fun e => e.1 ≠ key') = valuesUnder key entries := by
  rw [valuesUnder, valuesUnder, List.filter_filter]
  congr 2
  funext e
  by_cases he : e.1 = key <;> simp [he, h]

theorem Keyed.unique {members : List (StringToken × Tree)} {entries entries' : List (Text × Tree)}
    (h : Keyed members entries) (h' : Keyed members entries') : entries = entries' := by
  induction h generalizing entries' with
  | nil => cases h'; rfl
  | cons hm _ ih =>
    cases h' with
    | cons hm' hmembers' =>
      rw [ih hmembers', Prod.ext (Except.ok.inj (hm.1.symm.trans hm'.1)) (hm.2.symm.trans hm'.2)]

/-- A text holds at most one value. -/
theorem Holds.unique {t : Text} {v v' : Tree} (h : Holds t v) (h' : Holds t v') : v = v' :=
  congrArg Prod.fst ((readTree_eq_iff.2 h).1.symm.trans (readTree_eq_iff.2 h').1)

theorem IsObject.unique {t : Text} {entries entries' : List (Text × Tree)} (h : IsObject t entries)
    (h' : IsObject t entries') : entries = entries' := by
  obtain ⟨members, hholds, hkeyed⟩ := h
  obtain ⟨members', hholds', hkeyed'⟩ := h'
  cases hholds.unique hholds'
  exact hkeyed.unique hkeyed'

theorem IsObject.skip {t : Text} {entries : List (Text × Tree)} (h : IsObject t entries) :
    ∀ e ∈ entries, Json.skip e.2 = .ok () := by
  obtain ⟨members, ⟨_, s, _, -, hs, -⟩, hkeyed⟩ := h
  have hskip := hs.skip_of_mem
  clear hs
  induction hkeyed with
  | nil => nofun
  | cons hm _ ih =>
    obtain ⟨hhead, htail⟩ := List.forall_mem_cons.1 hskip
    exact List.forall_mem_cons.2 ⟨hm.2 ▸ hhead, ih htail⟩

/-! ## Values -/

/-- The integer that the sign and the whole part of a number write. -/
def Numeral.signed (n : Numeral) : Int :=
  if n.negative then - Nat.ofDigitChars 10 n.whole 0 else Nat.ofDigitChars 10 n.whole 0

/-- A value is an integer, written with no fraction and no exponent. -/
def Tree.IsInteger (v : Tree) (i : Int) : Prop :=
  ∃ n : Numeral, v = .number n ∧ n.fraction = none ∧ n.exponent = none ∧ n.signed = i

/-- A value is a string that holds a text. -/
def Tree.IsText (v : Tree) (t : Text) : Prop := ∃ s : StringToken, v = .string s ∧ s.text = .ok t

theorem StringToken.text_ofText (t : Text) : (ofText t).text = .ok t := by
  show readPieces .closed (t.map .char) = .ok t
  induction t with
  | nil => rfl
  | cons c t ih =>
    rw [List.map_cons, readPieces, ih]
    rfl

theorem Tree.isText_ofText (t : Text) : (Tree.string (.ofText t)).IsText t :=
  ⟨_, rfl, StringToken.text_ofText t⟩

theorem Tree.isInteger_ofNat (n : Nat) : (Tree.number (.ofNat n)).IsInteger n := by
  refine ⟨_, rfl, rfl, rfl, ?_⟩
  show ((Nat.ofDigitChars 10 (Nat.toDigits 10 n) 0 : Nat) : Int) = n
  rw [Nat.ofDigitChars_toDigits (by decide) (by decide)]

/-- A value is an object, or would be one if it were whole. -/
def Tree.IsMap : Tree → Prop
  | .object _ _ | .keyless => True
  | _ => False

theorem mismatch_ne_ok {α : Type} {wanted : Wanted} {v : Tree} {a : α} :
    mismatch wanted v ≠ .ok a := by
  cases v with
  | number n =>
    rw [mismatch]
    split <;> nofun
  | string s =>
    rw [mismatch]
    cases s.text <;> nofun
  | _ => nofun

theorem contains_iff {r : IntRange} {i : Int} : r.contains i = true ↔ r.low ≤ i ∧ i ≤ r.high := by
  rw [IntRange.contains, Bool.and_eq_true, decide_eq_true_eq, decide_eq_true_eq]

theorem check?_eq_some_iff {r : IntRange} {i j : Int} : r.check? i = some j ↔ r.contains i ∧ i = j := by
  rw [IntRange.check?]
  split <;> simp_all

/-- The integer that a number is taken for; none if it is taken for a number in floating point. -/
def Numeral.integer? (n : Numeral) : Option Int :=
  if n.fraction.isNone && n.exponent.isNone then
    let m := Nat.ofDigitChars 10 n.whole 0
    if n.negative then
      if m = 0 then none else IntRange.signed64.check? (- Int.ofNat m)
    else IntRange.unsigned64.check? (Int.ofNat m)
  else none

theorem Numeral.value?_eq_integer_iff {n : Numeral} {i : Int} :
    n.value? = some (.integer i) ↔ n.integer? = some i := by
  cases hinteger : n.integer? with
  | some j =>
    rw [integer?] at hinteger
    simp only [value?, hinteger]
    simp
  | none =>
    rw [integer?] at hinteger
    simp only [value?, hinteger]
    cases n.float? <;> simp

/-- A number is an integer of 64 bits, with or without a sign. -/
structure Numeral.IsWhole (n : Numeral) (i : Int) : Prop where
  fraction : n.fraction = none
  exponent : n.exponent = none
  signed : n.signed = i
  not_minus_zero : n.negative = true → i ≠ 0
  low : -9223372036854775808 ≤ i
  high : i ≤ 18446744073709551615

theorem Numeral.integer?_eq_some_iff {n : Numeral} {i : Int} : n.integer? = some i ↔ n.IsWhole i := by
  have hsplit : n.IsWhole i ↔ (n.fraction = none ∧ n.exponent = none) ∧ n.signed = i ∧
      (n.negative = true → i ≠ 0) ∧ -9223372036854775808 ≤ i ∧ i ≤ 18446744073709551615 :=
    ⟨fun h => ⟨⟨h.fraction, h.exponent⟩, h.signed, h.not_minus_zero, h.low, h.high⟩,
      fun ⟨⟨hf, he⟩, hs, hz, hl, hh⟩ => ⟨hf, he, hs, hz, hl, hh⟩⟩
  rw [hsplit, integer?, Numeral.signed]
  by_cases hplain : n.fraction = none ∧ n.exponent = none
  · have hnone : (n.fraction.isNone && n.exponent.isNone) = true := by simp [hplain]
    rw [if_pos hnone, and_iff_right hplain]
    cases n.negative with
    | true =>
      simp only [if_true, forall_true_left]
      by_cases hzero : Nat.ofDigitChars 10 n.whole 0 = 0
      · rw [if_pos hzero, hzero]
        refine ⟨nofun, ?_⟩
        rintro ⟨rfl, hne, -⟩
        exact absurd rfl hne
      · rw [if_neg hzero, check?_eq_some_iff, contains_iff, IntRange.signed64]
        simp only [Int.ofNat_eq_natCast]
        omega
    | false =>
      simp only [Bool.false_eq_true, if_false, false_implies, true_and]
      rw [check?_eq_some_iff, contains_iff, IntRange.unsigned64]
      simp only [Int.ofNat_eq_natCast]
      omega
  · have hnone : ¬ (n.fraction.isNone && n.exponent.isNone) = true := by simpa using hplain
    rw [if_neg hnone]
    exact ⟨nofun, fun h => absurd h.1 hplain⟩

/-- **A number is taken for an integer** exactly if it is one of 64 bits. -/
theorem Numeral.value?_eq_integer_iff_isWhole {n : Numeral} {i : Int} :
    n.value? = some (.integer i) ↔ n.IsWhole i :=
  value?_eq_integer_iff.trans integer?_eq_some_iff

/-- A positive integer of 64 bits is any number with neither a fraction nor an exponent. -/
theorem Numeral.isWhole_iff_of_pos {n : Numeral} {i : Int} (hpos : 0 < i)
    (hmax : i ≤ IntRange.unsigned64.high) :
    n.IsWhole i ↔ n.fraction = none ∧ n.exponent = none ∧ n.signed = i :=
  ⟨fun h => ⟨h.fraction, h.exponent, h.signed⟩,
    fun ⟨hf, he, hs⟩ => ⟨hf, he, hs, fun _ => by omega, by omega, hmax⟩⟩

section

variable {α : Type} {room : Nat} {v : Tree}

/-- A positive number of 64 bits with a sign is read from an integer. -/
theorem int64_eq_ok_iff {i : Int} (hpos : 0 < i) (hmax : i ≤ IntRange.signed64.high) :
    Reader.int64 room v = .ok i ↔ v.IsInteger i := by
  cases v with
  | number n =>
    have hunsigned : i ≤ IntRange.unsigned64.high :=
      Int.le_trans hmax (by decide : IntRange.signed64.high ≤ IntRange.unsigned64.high)
    have hlow : IntRange.signed64.low ≤ i :=
      Int.le_trans (by decide : IntRange.signed64.low ≤ 0) (Int.le_of_lt hpos)
    have hcontains : IntRange.signed64.contains i = true := contains_iff.2 ⟨hlow, hmax⟩
    rw [Tree.IsInteger]
    simp only [Tree.number.injEq, exists_eq_left']
    rw [← Numeral.isWhole_iff_of_pos hpos hunsigned, ← Numeral.value?_eq_integer_iff_isWhole]
    constructor
    · intro h
      rw [Reader.int64] at h
      split at h
      · next j hvalue =>
        split at h
        · cases h; exact hvalue
        · cases h
      · exact absurd h mismatch_ne_ok
    · intro h
      rw [Reader.int64]
      simp only [h, if_pos hcontains]
  | _ =>
    refine ⟨fun h => by simp only [Reader.int64, mismatch_ne_ok] at h, ?_⟩
    rintro ⟨n, h, -⟩
    cases h

/-- A text is read from a string that holds it. -/
theorem Reader.text_eq_ok_iff {t : Text} : Reader.text room v = .ok t ↔ v.IsText t := by
  cases v with
  | string s => exact ⟨fun h => ⟨s, rfl, h⟩, by rintro ⟨_, ⟨⟩, h⟩; exact h⟩
  | _ => exact ⟨fun h => by simp only [Reader.text, mismatch_ne_ok] at h, by rintro ⟨_, ⟨⟩, -⟩⟩

/-- One of a list of names is read from a string that holds it, maps aside. -/
theorem choice_eq_ok_iff {variants : List (Text × α)} {a : α} (hv : ¬ v.IsMap) :
    Reader.choice variants room v = .ok a ↔ ∃ name, v.IsText name ∧ variants.lookup name = some a := by
  cases v with
  | string s =>
    show (s.text >>= Reader.variant variants) = _ ↔ _
    rw [bind_eq_ok_iff]
    refine exists_congr fun name => ?_
    rw [Tree.IsText, Reader.variant]
    simp only [Tree.string.injEq, exists_eq_left']
    cases variants.lookup name <;> simp
  | object members ending => exact absurd trivial hv
  | keyless => exact absurd trivial hv
  | _ =>
    refine ⟨nofun, ?_⟩
    rintro ⟨name, ⟨s, h, -⟩, -⟩
    cases h

/-- A list of values is read from a list of which each element is read. -/
theorem list_eq_ok_iff {r : Reader α} {as : List α} :
    Reader.list r (room + 1) v = .ok as ↔
      ∃ items, v = .list items .closed ∧ List.Forall₂ (fun t a => r room t = .ok a) items as := by
  cases v with
  | list items ending =>
    show (enter (room + 1) >>= fun room => items.mapM (r room) >>= fun values =>
      raise ending.wanted >>= fun _ => pure values) = _ ↔ _
    simp only [bind_eq_ok_iff, mapM_eq_ok_iff]
    constructor
    · rintro ⟨_, hroom, values, hvalues, _, hending, h⟩
      cases hroom
      cases h
      cases ending with
      | closed => exact ⟨items, rfl, hvalues⟩
      | _ => cases hending
    · rintro ⟨items', h, hvalues⟩
      cases h
      exact ⟨room, rfl, as, hvalues, (), rfl, rfl⟩
  | _ =>
    refine ⟨fun h => by simp only [Reader.list, mismatch_ne_ok] at h, ?_⟩
    rintro ⟨items, h, -⟩
    cases h

/-- The first of two readings that succeeds is taken, if the value is whole. -/
theorem firstOf_eq_ok_iff {name : Text} {r r' : Reader α} {a : α} :
    Reader.firstOf name [r, r'] room v = .ok a ↔
      checkWhole room v = .ok () ∧
        (r room v = .ok a ∨ (∀ b, r room v ≠ .ok b) ∧ r' room v = .ok a) := by
  rw [Reader.firstOf, bind_eq_ok_iff, List.findSome?_cons, List.findSome?_singleton]
  constructor
  · rintro ⟨⟨⟩, hwhole, h⟩
    refine ⟨hwhole, ?_⟩
    cases hr : r room v with
    | ok b =>
      rw [hr] at h
      cases h
      exact .inl rfl
    | error _ =>
      rw [hr] at h
      cases hr' : r' room v with
      | ok b =>
        rw [hr'] at h
        cases h
        exact .inr ⟨nofun, rfl⟩
      | error _ =>
        rw [hr'] at h
        cases h
  · rintro ⟨hwhole, h⟩
    refine ⟨(), hwhole, ?_⟩
    rcases h with h | ⟨hnone, h⟩
    · rw [h]
      rfl
    · cases hr : r room v with
      | ok b => exact absurd hr (hnone b)
      | error _ =>
        rw [h]
        rfl

end

/-! ## Fields -/

/-- What stands in for a value that is absent. -/
def Absence.value? {α : Type} : Absence α → Option α
  | .required => none
  | .optional v => some v
  | .default v => some v

/-- A field takes the one value that stands under its key, or what stands in for none. -/
inductive Absence.Yields {α : Type} (absence : Absence α) (read : Tree → Except Fault α) :
    List Tree → α → Prop where
  | given {t : Tree} {v : α} (h : read t = .ok v) : Yields absence read [t] v
  | absent {v : α} (h : absence.value? = some v) : Yields absence read [] v

namespace Fields

section

variable {values slots : Type} {room : Nat} {entries : List (Text × Tree)}

/-- The fields take their values from the entries of an object, each from what stands under its
    key. -/
def Reads (room : Nat) {values slots : Type} :
    Fields values slots → List (Text × Tree) → values → Prop
  | nil, _, () => True
  | cons key absence reader rest, entries, (v, vs) =>
    absence.Yields (reader room) (valuesUnder key entries) v ∧
      rest.Reads room (entries.filter fun e => e.1 ≠ key) vs

/-- The keys of the fields. -/
def keys {values slots : Type} : Fields values slots → List Text
  | nil => []
  | cons key _ _ rest => key :: rest.keys

/-- Fills a place with a value, unless it is filled already. -/
def fill {α : Type} (key : Text) (read : Tree → Except Fault α) (slot : Option α) (t : Tree) :
    Except Fault (Option α) :=
  match slot with
  | some _ => .error (.duplicateField key)
  | none => (read t).map some

section

variable {α : Type} {key : Text} {absence : Absence α} {reader : Reader α}
  {rest : Fields values slots} {slot slot' : Option α} {found found' : slots} {t : Tree}

theorem put_cons_self :
    (cons key absence reader rest).put room key t (slot, found) =
      (fill key (reader room) slot t).map (·, found) := by
  cases slot with
  | some _ =>
    rw [put, if_pos rfl]
    rfl
  | none =>
    rw [put, if_pos rfl, fill]
    cases reader room t <;> rfl

theorem put_cons_of_ne {key' : Text} (h : key' ≠ key) :
    (cons key absence reader rest).put room key' t (slot, found) =
      (rest.put room key' t found).map (slot, ·) := by
  cases slot <;> rw [put, if_neg h]

end

/-- Takes in the entries of an object in order. -/
def putEntries (fields : Fields values slots) (room : Nat) (entries : List (Text × Tree))
    (found : slots) : Except Fault slots :=
  entries.foldlM (fun found e => fields.put room e.1 e.2 found) found

theorem putEntries_cons (fields : Fields values slots) (e : Text × Tree) (found : slots) :
    fields.putEntries room (e :: entries) found =
      fields.put room e.1 e.2 found >>= fields.putEntries room entries := List.foldlM_cons

/-- The members of an object are taken in by their texts. -/
theorem putAll_of_keyed {fields : Fields values slots} {members : List (StringToken × Tree)}
    (h : Keyed members entries) (found : slots) :
    fields.putAll room members found = fields.putEntries room entries found := by
  induction h generalizing found with
  | nil => rfl
  | @cons m e members entries hm _ ih =>
    obtain ⟨k, v⟩ := m
    obtain ⟨htext, rfl⟩ := hm
    rw [putAll, htext, putEntries_cons]
    exact congrArg _ (funext ih)

/-- Members that are taken in have texts as keys. -/
theorem exists_keyed_of_putAll {fields : Fields values slots}
    {members : List (StringToken × Tree)} {found found' : slots}
    (h : fields.putAll room members found = .ok found') : ∃ entries, Keyed members entries := by
  induction members generalizing found with
  | nil => exact ⟨[], .nil⟩
  | cons m members ih =>
    obtain ⟨k, v⟩ := m
    obtain ⟨key, hkey, h⟩ := bind_eq_ok_iff.1 h
    obtain ⟨next, -, h⟩ := bind_eq_ok_iff.1 h
    obtain ⟨entries, hentries⟩ := ih h
    exact ⟨(key, v) :: entries, .cons ⟨hkey, rfl⟩ hentries⟩

/-- An unknown key leaves the values found so far as they are. -/
theorem put_of_not_mem {fields : Fields values slots} {key : Text} {v : Tree}
    (h : key ∉ fields.keys) (hv : skip v = .ok ()) (found : slots) :
    fields.put room key v found = .ok found := by
  induction fields with
  | nil =>
    rw [put]
    exact hv
  | cons key' _ _ rest ih =>
    obtain ⟨slot, found⟩ := found
    obtain ⟨hne, hrest⟩ := not_or.1 (List.mem_cons.not.1 h)
    rw [put_cons_of_ne hne, ih hrest]
    rfl

/-- **Unknown keys change nothing**, not even what is reported. -/
theorem putEntries_filter (fields : Fields values slots)
    (hskip : ∀ e ∈ entries, skip e.2 = .ok ()) (found : slots) :
    fields.putEntries room entries found =
      fields.putEntries room (entries.filter fun e => e.1 ∈ fields.keys) found := by
  induction entries generalizing found with
  | nil => rfl
  | cons e entries ih =>
    obtain ⟨hhead, htail⟩ := List.forall_mem_cons.1 hskip
    rw [putEntries_cons]
    by_cases hmem : e.1 ∈ fields.keys
    · rw [List.filter_cons_of_pos (by simpa using hmem), putEntries_cons]
      exact congrArg _ (funext fun found => ih htail found)
    · rw [List.filter_cons_of_neg (by simpa using hmem), put_of_not_mem hmem hhead]
      exact ih htail found

section

variable {α : Type} {key : Text} {absence : Absence α} {reader : Reader α}
  {rest : Fields values slots} {slot slot' : Option α} {found found' : slots}

/-- The place of a field is filled by what stands under its key, and the other places by the rest of
    the entries. -/
theorem putEntries_eq_ok_iff :
    (cons key absence reader rest).putEntries room entries (slot, found) = .ok (slot', found') ↔
      (valuesUnder key entries).foldlM (fill key (reader room)) slot = .ok slot' ∧
        rest.putEntries room (entries.filter fun e => e.1 ≠ key) found = .ok found' := by
  induction entries generalizing slot found with
  | nil => simp [putEntries, valuesUnder, pure, Except.pure]
  | cons e entries ih =>
    obtain ⟨key', t⟩ := e
    rw [putEntries_cons, bind_eq_ok_iff]
    -- an entry goes to the place of the field or to the other places, by its key
    by_cases hkey : key' = key
    · subst hkey
      have hunder : valuesUnder key' ((key', t) :: entries) = t :: valuesUnder key' entries := by
        simp [valuesUnder]
      rw [hunder, List.foldlM_cons, bind_eq_ok_iff, List.filter_cons_of_neg (by simp)]
      simp only [put_cons_self, map_eq_ok_iff]
      constructor
      · rintro ⟨_, ⟨next, hfill, rfl⟩, hput⟩
        obtain ⟨hothers, hrest⟩ := ih.1 hput
        exact ⟨⟨next, hfill, hothers⟩, hrest⟩
      · rintro ⟨⟨next, hfill, hothers⟩, hrest⟩
        exact ⟨_, ⟨next, hfill, rfl⟩, ih.2 ⟨hothers, hrest⟩⟩
    · have hunder : valuesUnder key ((key', t) :: entries) = valuesUnder key entries := by
        simp [valuesUnder, hkey]
      rw [hunder, List.filter_cons_of_pos (by simpa using hkey), putEntries_cons, bind_eq_ok_iff]
      simp only [put_cons_of_ne hkey, map_eq_ok_iff]
      constructor
      · rintro ⟨_, ⟨next, hhead, rfl⟩, hput⟩
        obtain ⟨hvalues, hrest⟩ := ih.1 hput
        exact ⟨hvalues, next, hhead, hrest⟩
      · rintro ⟨hvalues, next, hhead, hrest⟩
        exact ⟨_, ⟨next, hhead, rfl⟩, ih.2 ⟨hvalues, hrest⟩⟩

/-- A place that is filled takes no other value. -/
theorem foldlM_fill_some_eq_ok_iff {values : List Tree} {v : α} {read : Tree → Except Fault α} :
    values.foldlM (fill key read) (some v) = .ok slot ↔ values = [] ∧ slot = some v := by
  cases values with
  | nil => simp [pure, Except.pure, eq_comm]
  | cons t values =>
    refine ⟨fun h => ?_, fun h => (nomatch h.1)⟩
    rw [List.foldlM_cons, fill] at h
    cases h

theorem completeSlot_none_eq_ok_iff {v : α} :
    completeSlot key absence none = .ok v ↔ absence.value? = some v := by
  cases absence <;> simp [completeSlot, Absence.value?]

/-- A place is filled and completed with what its field yields. -/
theorem exists_slot_iff (key : Text) {values : List Tree} {v : α} {read : Tree → Except Fault α} :
    (∃ slot, values.foldlM (fill key read) none = .ok slot ∧ completeSlot key absence slot = .ok v) ↔
      absence.Yields read values v := by
  constructor
  · rintro ⟨slot, hfill, hslot⟩
    cases values with
    | nil =>
      cases hfill
      exact .absent (completeSlot_none_eq_ok_iff.1 hslot)
    | cons t values =>
      rw [List.foldlM_cons] at hfill
      obtain ⟨next, hnext, hothers⟩ := bind_eq_ok_iff.1 hfill
      obtain ⟨w, hread, rfl⟩ := map_eq_ok_iff.1 hnext
      obtain ⟨rfl, rfl⟩ := foldlM_fill_some_eq_ok_iff.1 hothers
      cases hslot
      exact .given hread
  · intro h
    cases h with
    | given h => exact ⟨some v, by rw [List.foldlM_cons, fill, h]; rfl, rfl⟩
    | absent h => exact ⟨none, rfl, completeSlot_none_eq_ok_iff.2 h⟩

end

/-- **The fields of an object are read from its entries**. -/
theorem reads_iff {fields : Fields values slots} {read : values}
    (hskip : ∀ e ∈ entries, skip e.2 = .ok ()) :
    (∃ found, fields.putEntries room entries fields.noSlots = .ok found ∧
      fields.complete found = .ok read) ↔ fields.Reads room entries read := by
  induction fields generalizing entries with
  | nil =>
    refine ⟨fun _ => trivial, fun _ => ⟨(), ?_, rfl⟩⟩
    -- without fields every key is unknown
    rw [putEntries_filter _ hskip]
    simp only [keys, List.not_mem_nil, decide_false, List.filter_false]
    rfl
  | cons key absence reader rest ih =>
    obtain ⟨v, vs⟩ := read
    have hrest : ∀ e ∈ entries.filter fun e => e.1 ≠ key, skip e.2 = .ok () :=
      fun e he => hskip e (List.mem_filter.1 he).1
    rw [Reads, ← exists_slot_iff key, ← ih hrest]
    constructor
    · rintro ⟨⟨slot, found⟩, hput, hcomplete⟩
      obtain ⟨hfill, hothers⟩ := putEntries_eq_ok_iff.1 hput
      rw [complete] at hcomplete
      obtain ⟨v', hslot, hcomplete⟩ := bind_eq_ok_iff.1 hcomplete
      obtain ⟨vs', hvs, hcomplete⟩ := bind_eq_ok_iff.1 hcomplete
      cases hcomplete
      exact ⟨⟨slot, hfill, hslot⟩, found, hothers, hvs⟩
    · rintro ⟨⟨slot, hfill, hslot⟩, found, hothers, hvs⟩
      refine ⟨(slot, found), putEntries_eq_ok_iff.2 ⟨hfill, hothers⟩, ?_⟩
      rw [complete, hslot, hvs]
      rfl

end

end Fields

/-! ## Decoding -/

section

variable {α values slots : Type} {name t t' : Text} {fields : Fields values slots}
  {entries entries' : List (Text × Tree)}

/-- What is read from a text that holds one value is read from the value. -/
theorem decode_of_holds {v : Tree} (h : Holds t v) (r : Reader α) : decode r t = r maxDepth v := by
  rw [decode, (readTree_eq_iff.2 h).1]
  show (r maxDepth v >>= fun a => .ok a) = _
  cases r maxDepth v <;> rfl

/-- If something is read from a text, nothing follows what it is read from. -/
theorem exists_of_decode {r : Reader α} {a : α} (h : decode r t = .ok a) :
    ∃ v, readTree t = (v, []) ∧ r maxDepth v = .ok a := by
  rw [decode] at h
  cases hread : readTree t with
  | mk v rest =>
    rw [hread] at h
    obtain ⟨a', hv, h⟩ := bind_eq_ok_iff.1 h
    split at h
    · next hempty =>
      cases h
      obtain rfl := List.isEmpty_iff.1 hempty
      exact ⟨v, rfl, hv⟩
    · cases h

/-- A text that starts with a brace is read as an object, be it broken. -/
theorem readTree_brace (t : Text) :
    (∃ members ending, (readTree ('\x7b' :: t)).1 = .object members ending) ∨
      (readTree ('\x7b' :: t)).1 = .keyless := by
  have hread : (readTree ('\x7b' :: t)).1 =
      (readValue (2 * t.length + 3 + 1) ('\x7b' :: t)).1 := rfl
  rw [hread, readValue, skipSpace_of_not_isSpace (by decide)]
  simp only
  split <;> simp

/-- A record is read from an object as its fields are read from the entries. -/
theorem record_of_isObject (h : IsObject t entries) :
    decode (Reader.record name fields) t =
      fields.putEntries (maxDepth - 1) entries fields.noSlots >>= fields.complete := by
  obtain ⟨members, hholds, hkeyed⟩ := h
  rw [decode_of_holds hholds, ← Fields.putAll_of_keyed hkeyed]
  rfl

/-- **Unknown keys change nothing**: two objects with the same entries under the keys of the fields
    have the same outcome. -/
theorem decode_record_congr (h : IsObject t entries) (h' : IsObject t' entries')
    (hknown : (entries.filter fun e => e.1 ∈ fields.keys) =
      entries'.filter fun e => e.1 ∈ fields.keys) :
    decode (Reader.record name fields) t = decode (Reader.record name fields) t' := by
  rw [record_of_isObject h, record_of_isObject h', Fields.putEntries_filter fields h.skip, hknown,
    ← Fields.putEntries_filter fields h'.skip]

/-- **A record is read from an object**, and from nothing else that starts with a brace. -/
theorem decode_record_eq_ok_iff {read : values} :
    decode (Reader.record name fields) ('\x7b' :: t) = .ok read ↔
      ∃ entries, IsObject ('\x7b' :: t) entries ∧ fields.Reads (maxDepth - 1) entries read := by
  constructor
  · intro h
    obtain ⟨v, hread, hv⟩ := exists_of_decode h
    have hbrace := readTree_brace t
    rw [hread] at hbrace
    rcases hbrace with ⟨members, ending, rfl⟩ | rfl
    · rw [Reader.record] at hv
      obtain ⟨room, hroom, hv⟩ := bind_eq_ok_iff.1 hv
      obtain rfl : maxDepth - 1 = room := Except.ok.inj hroom
      obtain ⟨found, hput, hv⟩ := bind_eq_ok_iff.1 hv
      obtain ⟨_, hending, hv⟩ := bind_eq_ok_iff.1 hv
      -- an object that breaks off is refused before its values are taken
      obtain rfl : ending = .closed := by
        cases ending with
        | closed => rfl
        | _ => cases hending
      obtain ⟨entries, hkeyed⟩ := Fields.exists_keyed_of_putAll hput
      have hobject : IsObject ('\x7b' :: t) entries :=
        ⟨members, readTree_eq_iff.1 ⟨hread, rfl⟩, hkeyed⟩
      rw [Fields.putAll_of_keyed hkeyed] at hput
      exact ⟨entries, hobject, (Fields.reads_iff hobject.skip).1 ⟨found, hput, hv⟩⟩
    · cases hv
  · rintro ⟨entries, hobject, hreads⟩
    rw [record_of_isObject hobject, bind_eq_ok_iff]
    exact (Fields.reads_iff hobject.skip).2 hreads

end

end ListeningCharts.Json
