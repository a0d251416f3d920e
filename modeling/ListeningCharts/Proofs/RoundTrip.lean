import ListeningCharts.Proofs.Rereading
import ListeningCharts.Proofs.Schema

/-! # Configurations written into markers

    A configuration that is written into a start marker is read back from it.

    * **Blobs**: what a configuration is written as is one object (`RegionConfig.isObject_toBlob`),
      and that declares the configuration (`RegionConfig.declares_entries`).
    * **Markers**: the blob is what is found between the colon and the arrow of the marker, so a
      document of a start marker, content and an end marker has one region with this configuration
      (`configuration_round_trip`).
-/

namespace ListeningCharts

open Json

/-! ## Blobs -/

namespace RegionConfig

theorem isUnescaped_period (p : Period) : p.name.all isUnescaped = true := by
  cases p <;> decide

theorem isUnescaped_displayField (f : DisplayField) : f.name.all isUnescaped = true := by
  cases f <;> decide

/-- The values of a configuration under their keys. -/
def entries (c : RegionConfig) : List (Text × Tree) := [
  ("rows", .number (.ofNat c.rows)),
  ("period", .string (.ofText c.period.name)),
  ("display", .list (c.display.map fun f => .string (.ofText f.name)) .closed)]

/-- What stands between the braces of the blob. -/
def inside (c : RegionConfig) : Text :=
  '"' :: ("rows" ++ '"' :: ':' :: (Text.ofNat c.rows ++ ',' :: '"' ::
    ("period" ++ '"' :: ':' :: '"' :: (c.period.name ++ '"' :: ',' :: '"' ::
      ("display" ++ '"' :: ':' :: '[' ::
        ([','].intercalate (c.display.map fun f => '"' :: (f.name ++ ['"'])) ++ [']']))))))

theorem toBlob_eq (c : RegionConfig) : c.toBlob = '\x7b' :: (c.inside ++ ['\x7d']) := by
  have hrows : ("\x7b\"rows\":" : Text) = '\x7b' :: '"' :: ("rows" ++ ['"', ':']) := by decide
  have hperiod : (",\"period\":" : Text) = ',' :: '"' :: ("period" ++ ['"', ':']) := by decide
  have hdisplay : (",\"display\":[" : Text) = ',' :: '"' :: ("display" ++ ['"', ':', '[']) := by
    decide
  have hquote : ("\"" : Text) = ['"'] := by decide
  have hend : ("]\x7d" : Text) = [']', '\x7d'] := by decide
  unfold toBlob inside
  simp only [hrows, hperiod, hdisplay, hquote, hend, List.append_assoc, List.cons_append,
    List.nil_append]

/-- The members are written with nothing but commas between them. -/
theorem spelled_inside (c : RegionConfig) :
    MembersSpelled (c.entries.map fun e => (.ofText e.1, e.2)) c.inside := by
  have hkey := StringToken.spelled_ofText
  have hdisplay := MembersSpelled.last (hkey "display" (by decide)) isGap_nil isGap_nil
    (Tree.spelled_list (fun f : DisplayField =>
      .string (hkey f.name (isUnescaped_displayField f))) c.display) isGap_nil
  have hperiod := MembersSpelled.more (hkey "period" (by decide)) isGap_nil isGap_nil
    (.string (hkey c.period.name (isUnescaped_period c.period))) isGap_nil isGap_nil hdisplay
  have hrows := MembersSpelled.more (hkey "rows" (by decide)) isGap_nil isGap_nil
    (.number (Numeral.spelled_ofNat c.rows) rfl) isGap_nil isGap_nil hperiod
  simp only [List.append_assoc, List.cons_append, List.nil_append, List.append_nil] at hrows
  exact hrows

/-- **A configuration is written as an object**. -/
theorem isObject_toBlob (c : RegionConfig) : IsObject c.toBlob c.entries := by
  refine ⟨_, ⟨[], _, [], isGap_nil, .object isGap_nil c.spelled_inside, isGap_nil, ?_⟩, ?_⟩
  · rw [toBlob_eq, List.append_nil, List.nil_append, List.nil_append]
  rw [Keyed, List.forall₂_map_left_iff]
  exact List.forall₂_same.2 fun e _ => ⟨StringToken.text_ofText e.1, rfl⟩

/-- **What is written declares the configuration**. -/
theorem declares_entries {c : RegionConfig} (hrows : 1 ≤ c.rows ∧ c.rows ≤ 50) :
    Declares c.entries c where
  rows := .inr ⟨_, rfl, Tree.isInteger_ofNat c.rows, hrows⟩
  period := .inr ⟨_, rfl, Tree.isText_ofText _⟩
  display := by
    refine .inr ⟨_, rfl, _, rfl, ?_⟩
    rw [List.forall₂_map_left_iff]
    exact List.forall₂_same.2 fun f _ => Tree.isText_ofText f.name

theorem namesPlain_entries (c : RegionConfig) : NamesPlain c.entries where
  period v hv := by
    obtain rfl : v = .string (.ofText c.period.name) := List.mem_singleton.1 hv
    exact id
  display v hv items ending hlist item hitem := by
    obtain rfl : v = .list (c.display.map fun f => .string (.ofText f.name)) .closed :=
      List.mem_singleton.1 hv
    cases hlist
    obtain ⟨f, -, rfl⟩ := List.mem_map.1 hitem
    exact id

/-- **A configuration is read from what it is written as**. -/
theorem ofBlob_toBlob {c : RegionConfig} (hrows : 1 ≤ c.rows ∧ c.rows ≤ 50) :
    ofBlob (some c.toBlob) = .ok c := by
  have hobject := c.isObject_toBlob
  rw [toBlob_eq] at hobject ⊢
  refine (ofBlob_eq_ok_iff ?_).2 ⟨c.entries, hobject, declares_entries hrows⟩
  intro entries h
  rw [h.unique hobject]
  exact c.namesPlain_entries

theorem isBraced_toBlob (c : RegionConfig) : Marker.IsBraced c.toBlob := ⟨c.inside, c.toBlob_eq⟩

theorem lineFeed_not_mem_toBlob (c : RegionConfig) : '\n' ∉ c.toBlob := by
  have hname : ∀ t : Text, t.all isUnescaped = true → '\n' ∉ t :=
    fun t ht hmem => absurd (List.all_eq_true.1 ht _ hmem) (by decide)
  have hperiod := hname _ (isUnescaped_period c.period)
  have hdisplay : '\n' ∉ [','].intercalate (c.display.map fun f => '"' :: (f.name ++ ['"'])) := by
    refine Text.not_mem_intercalate (by decide) fun piece hpiece => ?_
    obtain ⟨f, -, rfl⟩ := List.mem_map.1 hpiece
    simp [hname _ (isUnescaped_displayField f)]
  rw [toBlob_eq, inside]
  simp [Text.lineFeed_not_mem_ofNat, hperiod, hdisplay]

end RegionConfig

/-! ## Markers -/

/-- The start marker with a configuration. -/
def Family.startLine (f : Family) (c : RegionConfig) : Text :=
  f.startPrefix ++ ':' :: (c.toBlob ++ Marker.arrow)

/-- The end marker. -/
def Family.endLine (f : Family) : Text := f.endPrefix ++ Marker.arrow

variable {f : Family} {c : RegionConfig}

/-- A start marker opens a region with the configuration that is written into it. -/
theorem Marker.classify_startLine (hrows : 1 ≤ c.rows ∧ c.rows ≤ 50) :
    classify f (f.startLine c) = .ok (.opening c) := by
  obtain ⟨inside, hinside⟩ := c.isBraced_toBlob
  have hblob : blob? (':' :: (c.toBlob ++ arrow)) = some (some c.toBlob) := by
    have hnone : ¬ blobEnd <:+: [] := by decide
    rw [hinside]
    simpa [blobEnd] using blob?_of_last hnone inside
  rw [Family.startLine, classify_startPrefix_append, hblob]
  simp only [RegionConfig.ofBlob_toBlob hrows]
  rfl

theorem Family.role_endLine (f : Family) : f.role f.endLine = .closes :=
  role_eq_closes_iff.2 (List.prefix_append _ _)

theorem Family.lineFeed_not_mem_startLine (f : Family) (c : RegionConfig) : '\n' ∉ f.startLine c := by
  have hfront : '\n' ∉ f.startPrefix := by cases f <;> decide
  have harrow : '\n' ∉ Marker.arrow := by decide
  simp [startLine, hfront, c.lineFeed_not_mem_toBlob, harrow]

theorem Family.lineFeed_not_mem_endLine (f : Family) : '\n' ∉ f.endLine := by cases f <;> decide

/-- **A configuration survives the way through a marker**.

    * It is written as one object, with its values under their keys.
    * A start marker with this object, content of the family and an end marker are read as one region,
      with the configuration and with exactly the lines of content, from the first byte to the
      last. -/
theorem configuration_round_trip (f : Family) (c : RegionConfig) (hrows : 1 ≤ c.rows ∧ c.rows ≤ 50)
    (body : List Text)
    (hbody : ∀ l ∈ body, '\n' ∉ l ∧ ¬ f.startPrefix <+: l ∧ ¬ f.endPrefix <+: l) :
    IsObject c.toBlob c.entries ∧
    scan f (Text.joinLines (f.startLine c :: body ++ [f.endLine])) = .ok [{
      family := f
      startMarker := f.startLine c
      endMarker := f.endLine
      bodyLines := body
      fullText := Text.joinLines (f.startLine c :: body ++ [f.endLine])
      span := ⟨0, (Text.joinLines (f.startLine c :: body ++ [f.endLine])).byteLength⟩
      config := c }] := by
  refine ⟨c.isObject_toBlob, ?_⟩
  have hmarked : Region.IsMarked
      ⟨f, f.startLine c, f.endLine, body, [], ⟨0, 0⟩, c⟩ :=
    ⟨Marker.classify_startLine hrows, f.role_endLine, f.lineFeed_not_mem_startLine c,
      f.lineFeed_not_mem_endLine⟩
  have hscan := hmarked.scan_textOf (fun l hl => (hbody l hl).1)
    fun l hl => Family.role_eq_content_iff.2 (hbody l hl).2
  rw [Region.found, Nat.zero_add] at hscan
  exact hscan

/-- The most rows, a field shown twice, and content that comes close to a marker. -/
theorem configuration_round_trip_sample :
    Family.recent.startLine ⟨50, .overall, [.playcount, .playcount]⟩ =
      ("<!--START_LASTFM_RECENT:\x7b\"rows\":50,\"period\":\"overall\"," ++
        "\"display\":[\"playcount\",\"playcount\"]\x7d-->" : Text) ∧
    (scan .recent (Text.joinLines (
      Family.recent.startLine ⟨50, .overall, [.playcount, .playcount]⟩ ::
        ["", " <!--END_LASTFM_RECENT-->", "🎶\x7d-->"] ++ [Family.recent.endLine]))).map
      (fun regions => regions.map fun r => (r.config, r.bodyLines)) =
      .ok [(⟨50, .overall, [.playcount, .playcount]⟩,
        ["", " <!--END_LASTFM_RECENT-->", "🎶\x7d-->"])] := by
  refine ⟨by decide +kernel, ?_⟩
  rw [(configuration_round_trip .recent ⟨50, .overall, [.playcount, .playcount]⟩ (by decide)
    ["", " <!--END_LASTFM_RECENT-->", "🎶\x7d-->"] (by decide)).2]
  rfl

end ListeningCharts
