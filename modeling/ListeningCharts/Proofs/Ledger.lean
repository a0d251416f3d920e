import ListeningCharts.Proofs.Pairing

/-! # The scan with a ledger

    The scan can be told as a loop over the lines that fills in a ledger: a start marker makes a new
    entry, an end marker goes into the entry that has been open longest, and a queue holds the
    places of the entries that are open. In the end every entry becomes a region, and an entry
    without an end marker would be an error of its own.

    * **The same scan**: the ledger gives what `scan` gives (`Ledger.scan_eq`).
    * **Every entry is closed**: if no entry is open in the end, then every entry has an end marker.
      So the error for an entry without one never shows (`Ledger.exists_region_of_readAll`).
-/

namespace ListeningCharts

/-- What is written down for a start marker. -/
structure LedgerEntry where
  opened : OpenRegion
  /-- The end marker and the byte at which it ends, once it is read. -/
  closing : Option (Text × Nat) := none

/-- The region of an entry, if it has an end marker. -/
def LedgerEntry.toRegion (f : Family) (entry : LedgerEntry) : Except Error Region :=
  match entry.closing with
  | some (endMarker, stop) => .ok (entry.opened.close f endMarker stop)
  | none => .error (.startWithoutEnd [entry.opened.startMarker])

/-- One entry for each start marker, and the places of those that are open. -/
structure Ledger where
  entries : List LedgerEntry := []
  queue : List Nat := []

namespace Ledger

/-- The ledger after a line that starts at byte `offset`. -/
def read (f : Family) (ledger : Ledger) (offset : Nat) (line : Text) : Except Error Ledger :=
  match Marker.classify f line with
  | .error fault => .error (.malformedConfiguration line fault)
  | .ok (.opening config) => .ok
    { entries := ledger.entries ++ [{ opened := { startMarker := line, start := offset, config } }]
      queue := ledger.queue ++ [ledger.entries.length] }
  | .ok .closing =>
    match ledger.queue with
    | [] => .error (.endWithoutStart line)
    | oldest :: queue => .ok
      { entries := ledger.entries.modify oldest fun entry =>
          { entry with closing := some (line, offset + line.byteLength) }
        queue }
  | .ok .content =>
    match ledger.queue with
    | [only] => .ok
      { ledger with entries := ledger.entries.modify only fun entry =>
          { entry with opened := entry.opened.push line } }
    | _ => .ok ledger

/-- The ledger after some lines. -/
def readAll (f : Family) : Ledger → Nat → List Text → Except Error Ledger
  | ledger, _, [] => .ok ledger
  | ledger, offset, line :: lines =>
    match ledger.read f offset line with
    | .ok next => readAll f next (offset + line.byteLength + 1) lines
    | .error e => .error e

/-- The regions of a ledger, if no entry is open. -/
def regions (f : Family) (ledger : Ledger) : Except Error (List Region) :=
  if ledger.queue.isEmpty then ledger.entries.mapM (LedgerEntry.toRegion f)
  else .error (.startWithoutEnd (ledger.queue.filterMap fun place =>
    ledger.entries[place]?.map fun entry => entry.opened.startMarker))

/-- The regions of a document, told with a ledger. -/
def scan (f : Family) (document : Text) : Except Error (List Region) :=
  match readAll f {} 0 document.lines with
  | .ok ledger => ledger.regions f
  | .error e => .error e

/-! ## Closed entries before open ones -/

/-- The ledger with some entries that are closed, and behind them those that are open. -/
def split (closed : List (OpenRegion × Text × Nat)) (pending : List OpenRegion) : Ledger where
  entries := closed.map (fun (opened, closing) => ⟨opened, some closing⟩) ++
    pending.map fun opened => ⟨opened, none⟩
  queue := List.range' closed.length pending.length

variable {f : Family} {closed : List (OpenRegion × Text × Nat)} {pending : List OpenRegion}
  {oldest : OpenRegion} {offset : Nat} {line : Text} {lines : List Text}

theorem split_nil : split [] [] = {} := rfl

theorem modify_length {α : Type} (front back : List α) (x : α) (g : α → α) :
    (front ++ x :: back).modify front.length g = front ++ g x :: back := by
  induction front with
  | nil => rfl
  | cons y front ih => exact congrArg (y :: ·) ih

/-- The queue begins with the first entry that is open. -/
theorem modify_entries (g : LedgerEntry → LedgerEntry) :
    (split closed (oldest :: pending)).entries.modify closed.length g =
      closed.map (fun (opened, closing) => ⟨opened, some closing⟩) ++
        g ⟨oldest, none⟩ :: pending.map fun opened => ⟨opened, none⟩ := by
  have hlength : closed.length =
      (closed.map fun (opened, closing) => (⟨opened, some closing⟩ : LedgerEntry)).length := by
    rw [List.length_map]
  rw [split, List.map_cons, hlength]
  exact modify_length _ _ _ _

theorem read_of_opening {config : RegionConfig}
    (h : Marker.classify f line = .ok (.opening config)) :
    (split closed pending).read f offset line =
      .ok (split closed (pending ++ [{ startMarker := line, start := offset, config }])) := by
  simp only [read, h, split, List.length_append, List.length_map, List.map_append, List.map_cons,
    List.map_nil, List.append_assoc, List.length_cons, List.length_nil]
  rw [List.range'_concat, Nat.one_mul]

theorem read_of_closes (h : f.role line = .closes) :
    (split closed (oldest :: pending)).read f offset line =
      .ok (split (closed ++ [(oldest, line, offset + line.byteLength)]) pending) := by
  have hqueue : (split closed (oldest :: pending)).queue =
      closed.length :: List.range' (closed.length + 1) pending.length := List.range'_succ
  simp only [read, Marker.classify_of_closes h, hqueue, modify_entries]
  simp [split]

theorem read_of_closes_nil (h : f.role line = .closes) :
    (split closed []).read f offset line = .error (.endWithoutStart line) := by
  simp only [read, Marker.classify_of_closes h]
  rfl

theorem read_of_content (h : f.role line = .content) :
    (split closed pending).read f offset line =
      .ok (split closed (OpenRegion.receive line pending)) := by
  match pending with
  | [] =>
    simp only [read, Marker.classify_of_content h]
    rfl
  | [only] =>
    have hqueue : (split closed [only]).queue = [closed.length] := rfl
    simp only [read, Marker.classify_of_content h, hqueue, modify_entries]
    rfl
  | first :: second :: others =>
    have hqueue : (split closed (first :: second :: others)).queue =
        closed.length :: (closed.length + 1) ::
          List.range' (closed.length + 1 + 1) others.length := rfl
    simp only [read, Marker.classify_of_content h, hqueue]
    rfl

/-! ## The same scan -/

/-- The places behind some entries are those of the entries that follow. -/
theorem filterMap_range' {α β : Type} (front back : List α) (g : α → β) :
    (List.range' front.length back.length).filterMap
      (fun place => (front ++ back)[place]?.map g) = back.map g := by
  induction back generalizing front with
  | nil => rfl
  | cons x back ih =>
    have hhead : (front ++ x :: back)[front.length]?.map g = some (g x) := by simp
    have hrest := ih (front ++ [x])
    rw [List.length_append, List.length_singleton, List.append_assoc,
      List.singleton_append] at hrest
    rw [List.length_cons, List.range'_succ, List.filterMap_cons, hhead, hrest, List.map_cons]

/-- The regions of entries that are closed. -/
def closedRegions (f : Family) (closed : List (OpenRegion × Text × Nat)) : List Region :=
  closed.map fun (opened, endMarker, stop) => opened.close f endMarker stop

theorem regions_split_nil (f : Family) (closed : List (OpenRegion × Text × Nat)) :
    (split closed []).regions f = .ok (closedRegions f closed) := by
  have hqueue : (split closed []).queue.isEmpty = true := rfl
  rw [regions, if_pos hqueue, mapM_eq_ok_iff]
  simp only [split, closedRegions, List.map_nil, List.append_nil, List.forall₂_map_left_iff,
    List.forall₂_map_right_iff]
  exact List.forall₂_same.2 fun _ _ => rfl

/-- If entries are open in the end, their start markers are reported, the oldest first. -/
theorem regions_split_cons (f : Family) (closed : List (OpenRegion × Text × Nat))
    (oldest : OpenRegion) (pending : List OpenRegion) :
    (split closed (oldest :: pending)).regions f =
      .error (.startWithoutEnd ((oldest :: pending).map OpenRegion.startMarker)) := by
  have hqueue : ¬ (split closed (oldest :: pending)).queue.isEmpty = true := Bool.false_ne_true
  have hopen := filterMap_range' (closed.map fun (opened, closing) => ⟨opened, some closing⟩)
    ((oldest :: pending).map fun opened => ⟨opened, none⟩)
    fun entry : LedgerEntry => entry.opened.startMarker
  rw [List.length_map, List.length_map, List.map_map] at hopen
  rw [regions, if_neg hqueue]
  exact congrArg (fun markers => Except.error (Error.startWithoutEnd markers)) hopen

/-- Behind any lines that are read, the closed entries stand before the open ones; and what the scan
    finds from there on comes behind the regions that are closed. -/
theorem readAll_split (f : Family) (lines : List Text) (closed : List (OpenRegion × Text × Nat))
    (pending : List OpenRegion) (offset : Nat) :
    (∃ e, readAll f (split closed pending) offset lines = .error e ∧
      pairMarkers f pending offset lines = .error e) ∨
    ∃ closed' pending',
      readAll f (split closed pending) offset lines = .ok (split closed' pending') ∧
      (split closed' pending').regions f =
        (pairMarkers f pending offset lines).map (closedRegions f closed ++ ·) := by
  induction lines generalizing closed pending offset with
  | nil =>
    refine .inr ⟨closed, pending, rfl, ?_⟩
    cases pending with
    | nil => rw [regions_split_nil, pairMarkers, Except.map, List.append_nil]
    | cons oldest pending =>
      rw [regions_split_cons, pairMarkers_nil_of_pending]
      rfl
  | cons line lines ih =>
    rw [readAll]
    cases hrole : f.role line with
    | opens =>
      rcases Marker.classify_of_opens hrole with ⟨fault, hfault⟩ | ⟨config, hkind⟩
      · left
        refine ⟨.malformedConfiguration line fault, ?_, pairMarkers_of_classify_error hfault⟩
        simp only [read, hfault]
      · rw [read_of_opening hkind, pairMarkers_of_opening hkind]
        exact ih _ _ _
    | closes =>
      cases pending with
      | nil =>
        left
        refine ⟨.endWithoutStart line, ?_, pairMarkers_of_closes_nil hrole⟩
        rw [read_of_closes_nil hrole]
      | cons oldest pending =>
        rw [read_of_closes hrole, pairMarkers_of_closes hrole]
        -- the region that is closed here moves from the regions to come to those that are closed
        rcases ih (closed ++ [(oldest, line, offset + line.byteLength)]) pending
            (offset + line.byteLength + 1) with
          ⟨e, hread, hpair⟩ | ⟨closed', pending', hread, hregions⟩
        · exact .inl ⟨e, hread, by rw [hpair]; rfl⟩
        · refine .inr ⟨closed', pending', hread, ?_⟩
          rw [hregions]
          cases pairMarkers f pending (offset + line.byteLength + 1) lines with
          | error e => rfl
          | ok others => simp [Except.map, closedRegions]
    | content =>
      rw [read_of_content hrole, pairMarkers_of_content hrole]
      exact ih _ _ _

/-- **The ledger tells the same regions and the same errors** as the scan. -/
theorem scan_eq (f : Family) (document : Text) :
    Ledger.scan f document = ListeningCharts.scan f document := by
  rw [Ledger.scan, ListeningCharts.scan, ← split_nil]
  rcases readAll_split f document.lines [] [] 0 with
    ⟨e, hread, hpair⟩ | ⟨closed, pending, hread, hregions⟩
  · rw [hread, hpair]
  · rw [hread]
    show (split closed pending).regions f = _
    rw [hregions]
    cases pairMarkers f [] 0 document.lines <;> rfl

/-- **No entry is left without an end marker**: if no entry is open behind the lines of a document,
    then every entry has a region. -/
theorem exists_region_of_readAll {document : Text} {ledger : Ledger}
    (hread : readAll f {} 0 document.lines = .ok ledger) (hqueue : ledger.queue = []) :
    ∀ entry ∈ ledger.entries, ∃ r, entry.toRegion f = .ok r := by
  rw [← split_nil] at hread
  rcases readAll_split f document.lines [] [] 0 with ⟨e, herror, -⟩ | ⟨closed, pending, hsplit, -⟩
  · rw [herror] at hread
    cases hread
  · rw [hsplit] at hread
    cases hread
    obtain rfl : pending = [] := by
      cases pending with
      | nil => rfl
      | cons oldest pending => cases hqueue
    intro entry hentry
    rw [split, List.map_nil, List.append_nil] at hentry
    obtain ⟨⟨opened, endMarker, stop⟩, -, rfl⟩ := List.mem_map.1 hentry
    exact ⟨_, rfl⟩

end Ledger

end ListeningCharts
