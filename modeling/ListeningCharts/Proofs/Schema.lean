import ListeningCharts.Proofs.JsonRecords
import ListeningCharts.Proofs.Requests
import ListeningCharts.Proofs.StartMarkers

/-! # The schema of a configuration

    Which blobs hold a configuration, and which one.

    * **Schema**: the keys of a configuration occur at most once each, with values of the right kind
      and in range; what is not given has a default (`Declares`).
    * **Reading**: exactly the objects that follow the schema are read, and as the configuration that
      they declare (`RegionConfig.ofBlob_eq_ok_iff`). A name may also be given as an object with the
      name as its key, which the schema does not say; so it is asked that none is (`NamesPlain`).
    * **Markers**: a scan reads the blob of a start marker so, and reports the marker as it stands if
      that fails (`pairMarkers_of_blob`).
-/

namespace ListeningCharts

open Json

/-! ## Schema -/

/-- A key has at most one value, which says `a`, or `a` is the default. -/
def Given {α : Type} (values : List Tree) (Says : Tree → α → Prop) (default a : α) : Prop :=
  values = [] ∧ a = default ∨ ∃ v, values = [v] ∧ Says v a

/-- A list of strings that hold the names of the fields, in their order. -/
def Json.Tree.IsFieldList (v : Tree) (display : List DisplayField) : Prop :=
  ∃ items, v = .list items .closed ∧ List.Forall₂ (fun t f => t.IsText f.name) items display

/-- The entries of an object declare a configuration. -/
structure Declares (entries : List (Text × Tree)) (c : RegionConfig) : Prop where
  rows : Given (valuesUnder "rows" entries)
    (fun v (n : Nat) => v.IsInteger n ∧ 1 ≤ n ∧ n ≤ 50) 8 c.rows
  period : Given (valuesUnder "period" entries) (fun v p => v.IsText p.name) Period.week c.period
  display : Given (valuesUnder "display" entries) Tree.IsFieldList
    [.registered, .playcount, .artistCount, .albumCount, .trackCount] c.display

/-- No name is given as an object. -/
structure NamesPlain (entries : List (Text × Tree)) : Prop where
  period : ∀ v ∈ valuesUnder "period" entries, ¬ v.IsMap
  display : ∀ v ∈ valuesUnder "display" entries, ∀ items ending, v = .list items ending →
    ∀ item ∈ items, ¬ item.IsMap

/-! ## Reading -/

section

variable {α : Type} {room : Nat} {v : Tree}

theorem lookup_map_name_eq_some_iff {name : α → Text} (hname : name.Injective) {all : List α}
    {t : Text} {a : α} :
    (all.map fun a => (name a, a)).lookup t = some a ↔ a ∈ all ∧ t = name a := by
  induction all with
  | nil => simp
  | cons b all ih =>
    rw [List.map_cons, List.lookup_cons]
    by_cases h : t = name b
    · subst h
      simp only [beq_self_eq_true, Option.some.injEq, List.mem_cons, hname.eq_iff]
      exact ⟨fun h => ⟨.inl h.symm, h⟩, And.right⟩
    · rw [beq_false_of_ne h, ih, List.mem_cons]
      refine ⟨fun ⟨ha, ht⟩ => ⟨.inr ha, ht⟩, fun ⟨ha, ht⟩ => ⟨ha.resolve_left ?_, ht⟩⟩
      rintro rfl
      exact h ht

/-- One of all names is read from a string that holds it. -/
theorem choice_eq_ok_iff_isText {name : α → Text} (hname : name.Injective) {all : List α}
    (hall : ∀ a, a ∈ all) (hv : ¬ v.IsMap) {a : α} :
    Reader.choice (all.map fun a => (name a, a)) room v = .ok a ↔ v.IsText (name a) := by
  simp only [choice_eq_ok_iff hv, lookup_map_name_eq_some_iff hname]
  constructor
  · rintro ⟨_, ht, -, rfl⟩
    exact ht
  · exact fun h => ⟨name a, h, hall a, rfl⟩

theorem Period.name_injective : Period.name.Injective := by
  intro p q
  cases p <;> cases q <;> decide

theorem Period.mem_all (p : Period) : p ∈ all := by cases p <;> decide

theorem DisplayField.mem_all (f : DisplayField) : f ∈ all := by cases f <;> decide

theorem DisplayField.name_injective : DisplayField.name.Injective := by
  intro f g
  cases f <;> cases g <;> decide

/-- A list of names of fields is read from a list of strings that hold them. -/
theorem displayFields_eq_ok_iff (hv : ∀ items ending, v = .list items ending →
    ∀ item ∈ items, ¬ item.IsMap) {display : List DisplayField} :
    Reader.list (Reader.choice (DisplayField.all.map fun f => (f.name, f))) (room + 1) v =
      .ok display ↔ v.IsFieldList display := by
  rw [list_eq_ok_iff]
  refine exists_congr fun items => and_congr_right fun hlist => ?_
  have hitems := hv items .closed hlist
  have hitem : ∀ t f, ¬ t.IsMap →
      (Reader.choice (DisplayField.all.map fun f => (f.name, f)) room t = .ok f ↔ t.IsText f.name) :=
    fun t f ht => choice_eq_ok_iff_isText DisplayField.name_injective DisplayField.mem_all ht
  constructor
  · intro h
    exact ((List.forall₂_and_left _ _).2 ⟨hitems, h⟩).imp fun t f ⟨ht, h⟩ => (hitem t f ht).1 h
  · intro h
    exact ((List.forall₂_and_left _ _).2 ⟨hitems, h⟩).imp fun t f ⟨ht, h⟩ => (hitem t f ht).2 h

theorem yields_default_iff {read : Tree → Except Fault α} {values : List Tree} {d a : α} :
    (Absence.default d).Yields read values a ↔ Given values (fun v a => read v = .ok a) d a := by
  constructor
  · intro h
    cases h with
    | given h => exact .inr ⟨_, rfl, h⟩
    | absent h => exact .inl ⟨rfl, (Option.some.inj h).symm⟩
  · rintro (⟨rfl, rfl⟩ | ⟨v, rfl, h⟩)
    · exact .absent rfl
    · exact .given h

theorem given_congr {values : List Tree} {Says Says' : Tree → α → Prop} {d a : α}
    (h : ∀ v ∈ values, Says v a ↔ Says' v a) : Given values Says d a ↔ Given values Says' d a := by
  refine or_congr_right (exists_congr fun v => and_congr_right fun hv => h v ?_)
  rw [hv]
  exact List.mem_singleton_self v

/-- A number of rows in range is read from an integer in range. -/
theorem given_rows_iff {values : List Tree} {n : Nat} :
    Given values (fun v i => Reader.int64 room v = .ok i) (8 : Int) n ∧ 1 ≤ n ∧ n ≤ 50 ↔
      Given values (fun v (n : Nat) => v.IsInteger n ∧ 1 ≤ n ∧ n ≤ 50) 8 n := by
  have hread : 1 ≤ n → n ≤ 50 →
      ∀ v, Reader.int64 room v = .ok (n : Int) ↔ v.IsInteger n := fun hlow hhigh v =>
    int64_eq_ok_iff (by omega) (Int.le_trans (by omega : (n : Int) ≤ 50) (by decide))
  constructor
  · rintro ⟨⟨hvalues, hn⟩ | ⟨v, hvalues, hv⟩, hlow, hhigh⟩
    · exact .inl ⟨hvalues, by omega⟩
    · exact .inr ⟨v, hvalues, (hread hlow hhigh v).1 hv, hlow, hhigh⟩
  · rintro (⟨hvalues, rfl⟩ | ⟨v, hvalues, hv, hlow, hhigh⟩)
    · exact ⟨.inl ⟨hvalues, rfl⟩, by omega, by omega⟩
    · exact ⟨.inr ⟨v, hvalues, (hread hlow hhigh v).2 hv⟩, hlow, hhigh⟩

end

namespace RegionConfig

variable {blob t : Text} {c : RegionConfig} {entries : List (Text × Tree)}

/-- The keys of a configuration. -/
theorem keys_fields : fields.keys = ["rows", "period", "display"] := rfl

/-- A configuration is read from a record in which the number of rows is in range. -/
theorem ofBlob_some_eq_ok_iff :
    ofBlob (some blob) = .ok c ↔
      decode (Reader.record "RawRegionConfig" fields) blob =
        .ok ((c.rows : Int), c.period, c.display, ()) ∧ 1 ≤ c.rows ∧ c.rows ≤ 50 := by
  rw [ofBlob]
  cases decode (Reader.record "RawRegionConfig" fields) blob with
  | error fault => simp
  | ok read =>
    obtain ⟨rows, period, display, ⟨⟩⟩ := read
    have hbounds : (minRows : Int) = 1 ∧ (maxRows : Int) = 50 := ⟨rfl, rfl⟩
    simp only [Except.ok.injEq, Prod.mk.injEq, and_true]
    constructor
    · intro h
      split at h
      · next hrange =>
        cases h
        exact ⟨⟨by simp only; omega, rfl, rfl⟩, by simp only; omega, by simp only; omega⟩
      · cases h
    · rintro ⟨⟨rfl, rfl, rfl⟩, hlow, hhigh⟩
      rw [if_pos (by omega)]
      rfl

/-- Entries with plain names are read as what they declare. -/
theorem reads_iff_declares (hplain : NamesPlain entries) :
    fields.Reads (maxDepth - 1) entries ((c.rows : Int), c.period, c.display, ()) ∧
      1 ≤ c.rows ∧ c.rows ≤ 50 ↔ Declares entries c := by
  have hreads : fields.Reads (maxDepth - 1) entries ((c.rows : Int), c.period, c.display, ()) ↔
      Given (valuesUnder "rows" entries)
        (fun v i => Reader.int64 (maxDepth - 1) v = .ok i) (8 : Int) c.rows ∧
      Given (valuesUnder "period" entries) (fun v p =>
        Reader.choice (Period.all.map fun p => (p.name, p)) (maxDepth - 1) v = .ok p) .week c.period ∧
      Given (valuesUnder "display" entries) (fun v d =>
        Reader.list (Reader.choice (DisplayField.all.map fun f => (f.name, f))) (maxDepth - 1) v =
          .ok d) DisplayField.all c.display := by
    rw [fields, Fields.Reads, Fields.Reads, Fields.Reads, Fields.Reads]
    simp only [yields_default_iff, and_true]
    -- the keys are apart, so what one field takes is missed by no other
    rw [valuesUnder_filter_of_ne (by decide), valuesUnder_filter_of_ne (by decide),
      valuesUnder_filter_of_ne (by decide)]
  have hperiod : Given (valuesUnder "period" entries) (fun v p =>
        Reader.choice (Period.all.map fun p => (p.name, p)) (maxDepth - 1) v = .ok p) .week c.period ↔
      Given (valuesUnder "period" entries) (fun v p => v.IsText p.name) .week c.period :=
    given_congr fun v hv =>
      choice_eq_ok_iff_isText Period.name_injective Period.mem_all (hplain.period v hv)
  have hdisplay : Given (valuesUnder "display" entries) (fun v d =>
        Reader.list (Reader.choice (DisplayField.all.map fun f => (f.name, f))) (maxDepth - 1) v =
          .ok d) DisplayField.all c.display ↔
      Given (valuesUnder "display" entries) Tree.IsFieldList DisplayField.all c.display :=
    given_congr fun v hv => displayFields_eq_ok_iff (hplain.display v hv)
  rw [hreads]
  constructor
  · rintro ⟨⟨h, hp, hd⟩, hrange⟩
    exact ⟨given_rows_iff.1 ⟨h, hrange⟩, hperiod.1 hp, hdisplay.1 hd⟩
  · rintro ⟨h, hp, hd⟩
    obtain ⟨hrows, hrange⟩ := given_rows_iff.2 h
    exact ⟨⟨hrows, hperiod.2 hp, hdisplay.2 hd⟩, hrange⟩

/-- **The blobs of configurations** that start with a brace are the objects that declare one. -/
theorem ofBlob_eq_ok_iff
    (hplain : ∀ entries, IsObject ('\x7b' :: t) entries → NamesPlain entries) :
    ofBlob (some ('\x7b' :: t)) = .ok c ↔
      ∃ entries, IsObject ('\x7b' :: t) entries ∧ Declares entries c := by
  rw [ofBlob_some_eq_ok_iff, decode_record_eq_ok_iff, ← exists_and_right]
  refine exists_congr fun entries => ?_
  rw [and_assoc]
  exact and_congr_right fun hobject => reads_iff_declares (hplain entries hobject)

/-- Unknown keys do not change what is read, nor what is reported. -/
theorem ofBlob_congr {blob blob' : Text} {entries entries' : List (Text × Tree)}
    (h : IsObject blob entries) (h' : IsObject blob' entries')
    (hknown : (entries.filter fun e => e.1 ∈ (["rows", "period", "display"] : List Text)) =
      entries'.filter fun e => e.1 ∈ (["rows", "period", "display"] : List Text)) :
    ofBlob (some blob) = ofBlob (some blob') := by
  have hread : decode (Reader.record "RawRegionConfig" fields) blob =
      decode (Reader.record "RawRegionConfig" fields) blob' :=
    decode_record_congr h h' (by rw [keys_fields]; exact hknown)
  rw [ofBlob, ofBlob, hread]

/-- The configuration of a start marker with the given blob, or the error of the marker. -/
def ofMarker (marker : Text) (blob : Option Text) : Except Error RegionConfig :=
  (ofBlob blob).mapError (.malformedConfiguration marker)

theorem exists_of_ofMarker_eq_error {marker : Text} {blob : Option Text} {e : Error}
    (h : ofMarker marker blob = .error e) :
    ∃ fault, ofBlob blob = .error fault ∧ e = .malformedConfiguration marker fault := by
  rw [ofMarker] at h
  cases hblob : ofBlob blob with
  | error fault =>
    rw [hblob] at h
    cases h
    exact ⟨fault, rfl, rfl⟩
  | ok c =>
    rw [hblob] at h
    cases h

end RegionConfig

/-! ## Markers -/

/-- A start marker opens a region with the configuration of its blob, or ends the scan. -/
theorem pairMarkers_of_blob {f : Family} {rest : Text} {blob : Option Text}
    (h : Marker.blob? rest = some blob) (pending : List OpenRegion) (offset : Nat)
    (lines : List Text) :
    pairMarkers f pending offset ((f.startPrefix ++ rest) :: lines) =
      RegionConfig.ofMarker (f.startPrefix ++ rest) blob >>= fun config =>
        pairMarkers f
          (pending ++ [{ startMarker := f.startPrefix ++ rest, start := offset, config }])
          (offset + (f.startPrefix ++ rest).byteLength + 1) lines := by
  have hclassify : Marker.classify f (f.startPrefix ++ rest) =
      (RegionConfig.ofBlob blob).map .opening := by
    rw [Marker.classify_startPrefix_append, h]
  rw [RegionConfig.ofMarker]
  cases hblob : RegionConfig.ofBlob blob with
  | error fault =>
    rw [hblob] at hclassify
    exact pairMarkers_of_classify_error hclassify
  | ok config =>
    rw [hblob] at hclassify
    exact pairMarkers_of_opening hclassify

/-- **The schema of a configuration**, for every marker and every blob that starts with a brace and
    gives no name as an object.

    * The blob is read as a configuration exactly if it is one object, with nothing but a gap behind
      it, of which the entries declare the configuration: each key at most once, a number of rows
      from 1 to 50, one of the periods, a list of fields, and the defaults for what is not given.
    * Every failure is a malformed configuration with the marker as it stands.
    * Two objects with the same entries under the known keys have the same outcome.
    * A scan that comes to a start marker with the blob goes on with its configuration, or ends with
      its failure.
    * No scan finds a region with less than 1 row or more than 50. -/
theorem configuration_schema (marker t : Text)
    (hplain : ∀ entries, IsObject ('\x7b' :: t) entries → NamesPlain entries) :
    (∀ c, RegionConfig.ofMarker marker (some ('\x7b' :: t)) = .ok c ↔
      ∃ entries, IsObject ('\x7b' :: t) entries ∧ Declares entries c) ∧
    (∀ e, RegionConfig.ofMarker marker (some ('\x7b' :: t)) = .error e →
      ∃ fault, e = .malformedConfiguration marker fault) ∧
    (∀ blob entries entries', IsObject ('\x7b' :: t) entries → IsObject blob entries' →
      ((entries.filter fun e => e.1 ∈ (["rows", "period", "display"] : List Text)) =
        entries'.filter fun e => e.1 ∈ (["rows", "period", "display"] : List Text)) →
      RegionConfig.ofMarker marker (some ('\x7b' :: t)) = RegionConfig.ofMarker marker (some blob)) ∧
    (∀ f rest, Marker.blob? rest = some (some ('\x7b' :: t)) → ∀ pending offset lines,
      pairMarkers f pending offset ((f.startPrefix ++ rest) :: lines) =
        RegionConfig.ofMarker (f.startPrefix ++ rest) (some ('\x7b' :: t)) >>= fun config =>
          pairMarkers f
            (pending ++ [{ startMarker := f.startPrefix ++ rest, start := offset, config }])
            (offset + (f.startPrefix ++ rest).byteLength + 1) lines) ∧
    (∀ f document regions, scan f document = .ok regions →
      ∀ r ∈ regions, 1 ≤ r.config.rows ∧ r.config.rows ≤ 50) := by
  refine ⟨fun c => ?_, ?_, ?_, fun f rest h => pairMarkers_of_blob h, ?_⟩
  · rw [RegionConfig.ofMarker, mapError_eq_ok_iff]
    exact RegionConfig.ofBlob_eq_ok_iff hplain
  · intro e h
    obtain ⟨fault, -, rfl⟩ := RegionConfig.exists_of_ofMarker_eq_error h
    exact ⟨fault, rfl⟩
  · intro blob entries entries' h h' hknown
    rw [RegionConfig.ofMarker, RegionConfig.ofMarker, RegionConfig.ofBlob_congr h h' hknown]
  · intro f document regions hscan r hr
    exact Marker.rows_of_classify (isShaped_of_scan hscan r hr).opens

/-- Keys in another order than usual, a repeated field, and an unknown key given twice, once with a
    number beyond 64 bits. -/
theorem configuration_schema_sample :
    RegionConfig.ofMarker "<!--START_LASTFM_TRACKS" (some ('\x7b' :: (
        "\"x\":\x7b\"period\":[null]\x7d,\"display\":[\"playcount\",\"playcount\"]," ++
        "\"rows\":50,\"x\":99999999999999999999\x7d " : Text))) =
      .ok { rows := 50, period := .week, display := [.playcount, .playcount] } := by
  have hkey := StringToken.spelled_ofText
  have hdisplay := Tree.spelled_list
    (fun _ : Unit => .string (hkey "playcount" (by decide))) [(), ()]
  have hmembers := MembersSpelled.more (hkey "x" (by decide)) isGap_nil isGap_nil
    (.object isGap_nil (.last (hkey "period" (by decide)) isGap_nil isGap_nil
      (.list isGap_nil (.last .nullName isGap_nil)) isGap_nil)) isGap_nil isGap_nil
    (.more (hkey "display" (by decide)) isGap_nil isGap_nil hdisplay isGap_nil isGap_nil
      (.more (hkey "rows" (by decide)) isGap_nil isGap_nil
        (.number (Numeral.spelled_ofNat 50) rfl) isGap_nil isGap_nil
        (.last (hkey "x" (by decide)) isGap_nil isGap_nil
          (.number (Numeral.spelled_ofNat 99999999999999999999) rfl) isGap_nil)))
  have hobject : IsObject ('\x7b' :: (
        "\"x\":\x7b\"period\":[null]\x7d,\"display\":[\"playcount\",\"playcount\"]," ++
        "\"rows\":50,\"x\":99999999999999999999\x7d " : Text)) [
      ("x", .object [(.ofText "period", .list [.null] .closed)] .closed),
      ("display", .list [.string (.ofText "playcount"), .string (.ofText "playcount")] .closed),
      ("rows", .number (.ofNat 50)),
      ("x", .number (.ofNat 99999999999999999999))] := by
    have hblank : IsGap [' '] := by simp [IsGap, isSpace]
    refine ⟨_, ⟨[], _, [' '], isGap_nil, .object isGap_nil hmembers, hblank, by decide +kernel⟩, ?_⟩
    exact .cons ⟨rfl, rfl⟩ (.cons ⟨rfl, rfl⟩ (.cons ⟨rfl, rfl⟩ (.cons ⟨rfl, rfl⟩ .nil)))
  refine ((configuration_schema _ _ ?_).1 _).2 ⟨_, hobject, ?_⟩
  · intro entries h
    obtain rfl := hobject.unique h
    exact ⟨by simp [valuesUnder], by simp [valuesUnder, Tree.IsMap]⟩
  · exact ⟨.inr ⟨_, rfl, ⟨_, rfl, rfl, rfl, rfl⟩, by decide, by decide⟩, .inl ⟨rfl, rfl⟩,
      .inr ⟨_, rfl, _, rfl, .cons ⟨_, rfl, rfl⟩ (.cons ⟨_, rfl, rfl⟩ .nil)⟩⟩

end ListeningCharts
