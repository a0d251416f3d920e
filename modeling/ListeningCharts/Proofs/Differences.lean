import ListeningCharts.Cli.Run
import ListeningCharts.Proofs.Halving
import Mathlib.Data.List.Forall2

/-! # Differences lose nothing

    What an update would change is printed line by line: a line stays, goes or comes.

    * **Lines**: a line ends with a line feed, with a carriage return and a line feed, or with a
      carriage return alone, and a text is cut into its lines in no other way (`isCut_iff`).
    * **Entries**: a script is the same with a stretch for each of its lines, in what it makes of
      what (`Script.before_entries`, `Script.after_entries`) and in what is printed for it
      (`Cli.printScript_entries`).
    * **Printing**: what is printed for an entry is its line behind three spaces, or behind two and a
      sign (`Cli.IsShown`). It is one line of what is printed, so the entries are read back from
      that (`Cli.readDifference?_flatten`); only a line feed may be there that a line did not have.
    * **Exactness**: the lines that stay or go are the one text and the lines that stay or come are
      the other, and only lines stay if the texts are the same (`Cli.difference_is_exact`).
-/

namespace ListeningCharts.Diff

/-! ## Lines with their ends -/

/-- A text ends a line in front of another one: a line feed, a carriage return with a line feed, or
    a carriage return that has no line feed behind it. -/
inductive IsLineEnd : Text → Text → Prop where
  | lineFeed (rest : Text) : IsLineEnd ['\n'] rest
  | both (rest : Text) : IsLineEnd ['\r', '\n'] rest
  | carriageReturn {rest : Text} (h : rest[0]? ≠ some '\n') : IsLineEnd ['\r'] rest

/-- A text without a line feed and without a carriage return. -/
def IsUnbroken (line : Text) : Prop := '\n' ∉ line ∧ '\r' ∉ line

theorem isUnbroken_nil : IsUnbroken [] := ⟨by simp, by simp⟩

theorem isUnbroken_cons {c : Char} {line : Text} :
    IsUnbroken (c :: line) ↔ (c ≠ '\n' ∧ c ≠ '\r') ∧ IsUnbroken line := by
  simp only [IsUnbroken, List.mem_cons, not_or, ne_comm (a := c)]
  tauto

theorem IsUnbroken.reverse {line : Text} (h : IsUnbroken line) : IsUnbroken line.reverse := by
  unfold IsUnbroken
  rw [List.mem_reverse, List.mem_reverse]
  exact h

/-- A text is cut after each of its line ends, and what is left at its end is a line of its own. -/
inductive IsCut : Text → List Text → Prop where
  | nil : IsCut [] []
  | last {line : Text} (hline : IsUnbroken line) (hne : line ≠ []) : IsCut line [line]
  | line {line stop rest : Text} {lines : List Text} (hline : IsUnbroken line)
      (hstop : IsLineEnd stop rest) (hrest : IsCut rest lines) :
      IsCut (line ++ stop ++ rest) ((line ++ stop) :: lines)

theorem isCut_cutLines {line : List Char} (hline : IsUnbroken line) (t : Text) :
    IsCut (line.reverse ++ t) (cutLines line t) := by
  fun_induction cutLines line t with
  | case1 line h =>
    rw [List.isEmpty_iff.1 h]
    exact .nil
  | case2 line h =>
    rw [List.append_nil]
    exact .last hline.reverse (by simpa using h)
  | case3 line rest ih =>
    have hcut := IsCut.line hline.reverse (.both rest) (ih isUnbroken_nil)
    simpa using hcut
  | case4 line rest hnot ih =>
    have hhead : rest[0]? ≠ some '\n' := by
      intro hfeed
      cases rest with
      | nil => simp at hfeed
      | cons c rest =>
        simp only [List.getElem?_cons_zero, Option.some.injEq] at hfeed
        exact hnot rest (by rw [hfeed])
    have hcut := IsCut.line hline.reverse (.carriageReturn hhead) (ih isUnbroken_nil)
    simpa using hcut
  | case5 line rest ih =>
    have hcut := IsCut.line hline.reverse (.lineFeed rest) (ih isUnbroken_nil)
    simpa using hcut
  | case6 line c rest _ hreturn hfeed ih =>
    have hcut := ih (isUnbroken_cons.2 ⟨⟨hfeed, hreturn⟩, hline⟩)
    simpa using hcut

/-- The lines of a text are cut from it. -/
theorem isCut_linesOf (t : Text) : IsCut t (linesOf t) := isCut_cutLines isUnbroken_nil t

theorem cutLines_append {l : Text} (hl : IsUnbroken l) (line : List Char) (t : Text) :
    cutLines line (l ++ t) = cutLines (l.reverse ++ line) t := by
  induction l generalizing line with
  | nil => rfl
  | cons c l ih =>
    obtain ⟨⟨hfeed, hreturn⟩, hl⟩ := isUnbroken_cons.1 hl
    rw [List.cons_append, cutLines, ih hl]
    · simp
    · intro _ hc
      exact absurd hc hreturn
    · exact hreturn
    · exact hfeed

/-- A text is cut into its lines and in no other way. -/
theorem isCut_iff {t : Text} {lines : List Text} : IsCut t lines ↔ lines = linesOf t := by
  constructor
  · intro h
    induction h with
    | nil => rfl
    | @last line hline hne =>
      have hcut := cutLines_append hline [] []
      simp only [List.append_nil] at hcut
      rw [linesOf, hcut, cutLines, if_neg (by simpa using hne), List.reverse_reverse]
    | @line line stop rest lines hline hstop hrest ih =>
      rw [linesOf, List.append_assoc, cutLines_append hline, ih]
      cases hstop with
      | lineFeed => simp [cutLines, linesOf]
      | both => simp [cutLines, linesOf]
      | carriageReturn hhead =>
        rw [List.singleton_append, cutLines]
        · simp [linesOf]
        · intro more hrest'
          simp [hrest'] at hhead
  · intro h
    rw [h]
    exact isCut_linesOf t

/-- A line with its end. -/
def IsWhole (l : Text) : Prop :=
  ∃ line stop : Text, IsUnbroken line ∧ (stop = "\n" ∨ stop = "\r\n" ∨ stop = "\r") ∧ l = line ++ stop

theorem IsWhole.append {front l : Text} (hfront : IsUnbroken front) (h : IsWhole l) :
    IsWhole (front ++ l) := by
  obtain ⟨line, stop, hline, hstop, rfl⟩ := h
  refine ⟨front ++ line, stop, ?_, hstop, (List.append_assoc _ _ _).symm⟩
  exact ⟨fun h => (List.mem_append.1 h).elim hfront.1 hline.1,
    fun h => (List.mem_append.1 h).elim hfront.2 hline.2⟩

/-- A line with its end is the first line of a text that starts with it, unless the text goes on
    with a line feed. -/
theorem linesOf_append {l t : Text} (h : IsWhole l) (ht : t[0]? ≠ some '\n') :
    linesOf (l ++ t) = l :: linesOf t := by
  obtain ⟨line, stop, hline, hstop, rfl⟩ := h
  have hend : IsLineEnd stop t := by
    rcases hstop with rfl | rfl | rfl
    · exact .lineFeed t
    · exact .both t
    · exact .carriageReturn ht
  exact (isCut_iff.1 (.line hline hend (isCut_linesOf t))).symm

/-! ## Entries -/

variable {α : Type}

/-- The stretch with other items in the places of its own. -/
def Edit.map {β : Type} (f : α → β) : Edit α → Edit β
  | keep items => .keep (items.map f)
  | delete items => .delete (items.map f)
  | insert items => .insert (items.map f)

/-- The stretch with each of its items in a stretch of its own. -/
def Edit.entries : Edit α → Script α
  | keep items => items.map fun i => .keep [i]
  | delete items => items.map fun i => .delete [i]
  | insert items => items.map fun i => .insert [i]

namespace Script

/-- The script with each item in a stretch of its own. -/
def entries (s : Script α) : Script α := s.flatMap Edit.entries

/-- An entry says of one item that it stays, goes or comes. -/
theorem eq_of_mem_entries {s : Script α} {e : Edit α} (h : e ∈ s.entries) :
    ∃ item, e = .keep [item] ∨ e = .delete [item] ∨ e = .insert [item] := by
  obtain ⟨stretch, -, he⟩ := List.mem_flatMap.1 h
  cases stretch with
  | keep items =>
    obtain ⟨i, -, rfl⟩ := List.mem_map.1 he
    exact ⟨i, .inl rfl⟩
  | delete items =>
    obtain ⟨i, -, rfl⟩ := List.mem_map.1 he
    exact ⟨i, .inr (.inl rfl)⟩
  | insert items =>
    obtain ⟨i, -, rfl⟩ := List.mem_map.1 he
    exact ⟨i, .inr (.inr rfl)⟩

/-- What is done with each stretch can be done with each entry, if it is done item by item. -/
theorem flatMap_entries {β : Type} {f : Edit α → List β}
    (hf : ∀ e : Edit α, e.entries.flatMap f = f e) (s : Script α) :
    s.entries.flatMap f = s.flatMap f := by
  rw [entries, List.flatMap_assoc]
  exact congrArg (fun g => s.flatMap g) (funext hf)

@[simp] theorem before_entries (s : Script α) : s.entries.before = s.before := by
  apply flatMap_entries
  intro e
  cases e <;> simp [Edit.entries, Edit.before, List.flatMap_map]

@[simp] theorem after_entries (s : Script α) : s.entries.after = s.after := by
  apply flatMap_entries
  intro e
  cases e <;> simp [Edit.entries, Edit.after, List.flatMap_map]

theorem before_map {β : Type} (f : α → β) (s : Script α) :
    before (s.map (Edit.map f)) = s.before.map f := by
  induction s with
  | nil => rfl
  | cons e s ih => cases e <;> simp [ih, Edit.map, Edit.before]

theorem after_map {β : Type} (f : α → β) (s : Script α) :
    after (s.map (Edit.map f)) = s.after.map f := by
  induction s with
  | nil => rfl
  | cons e s ih => cases e <;> simp [ih, Edit.map, Edit.after]

/-- What an entry says something of is in one of the lists. -/
theorem mem_of_mem_entries {s : Script α} {e : Edit α} {item : α} (he : e ∈ s)
    (hitem : item ∈ e.before ∨ item ∈ e.after) : item ∈ s.before ∨ item ∈ s.after :=
  hitem.imp (fun h => List.mem_flatMap.2 ⟨e, he, h⟩) fun h => List.mem_flatMap.2 ⟨e, he, h⟩

/-- A script in which everything stays makes a list of itself. -/
theorem before_eq_after {s : Script α} (h : ∀ e ∈ s, e.isKeep = true) : s.before = s.after := by
  induction s with
  | nil => rfl
  | cons e s ih =>
    obtain ⟨he, hs⟩ := List.forall_mem_cons.1 h
    cases e with
    | keep items => simp [ih hs, Edit.before, Edit.after]
    | delete items => simp [Edit.isKeep] at he
    | insert items => simp [Edit.isKeep] at he

/-- Items that stay are entries that stay. -/
theorem isKeep_of_mem_entries_kept {items : List α} {e : Edit α}
    (h : e ∈ entries (kept items)) : e.isKeep = true := by
  unfold kept at h
  split at h
  · simp [entries] at h
  · simp only [entries, List.flatMap_cons, List.flatMap_nil, List.append_nil, Edit.entries] at h
    obtain ⟨i, -, rfl⟩ := List.mem_map.1 h
    rfl

end Script

/-! ## Texts -/

/-- The script of two texts makes the lines of the one of the lines of the other. -/
theorem ofTexts_exact (current expected : Text) :
    (ofTexts current expected).before = linesOf current ∧
      (ofTexts current expected).after = linesOf expected := by
  have hhalves := halves_divide (linesOf current) (linesOf expected)
  have hsame := same_compact (divide (linesOf current) (linesOf expected))
  exact ⟨hsame.before.trans hhalves.before_eq, hsame.after.trans hhalves.after_eq⟩

/-- Lines stay, and do nothing else, just if the texts are the same. -/
theorem isKeep_entries_iff (current expected : Text) :
    (∀ e ∈ (ofTexts current expected).entries, e.isKeep = true) ↔ current = expected := by
  constructor
  · intro hkeep
    have hlines := Script.before_eq_after hkeep
    rw [Script.before_entries, Script.after_entries, (ofTexts_exact current expected).1,
      (ofTexts_exact current expected).2] at hlines
    rw [← flatten_linesOf current, hlines, flatten_linesOf]
  · intro h e he
    rw [h, ofTexts, divide_self, compact_kept] at he
    exact Script.isKeep_of_mem_entries_kept he

end ListeningCharts.Diff

namespace ListeningCharts.Cli

open Diff

/-! ## Printing -/

/-- A difference is printed line by line. -/
theorem printScript_entries (colors : Bool) (s : Diff.Script Text) :
    printScript colors s.entries = printScript colors s := by
  apply Diff.Script.flatMap_entries
  intro e
  cases e <;> simp [Edit.entries, printEdit, List.flatMap_map]

/-- What is shown for an entry: a line that stays behind three spaces, and one that goes or comes
    behind two spaces and a sign, which has the color of the line. -/
inductive IsShown (colors : Bool) : Edit Text → Text → Prop where
  | keep (line : Text) : IsShown colors (.keep [line]) ("   " ++ endLine line)
  | delete (line : Text) :
      IsShown colors (.delete [line]) ("  " ++ paint colors .red ("-" ++ endLine line))
  | insert (line : Text) :
      IsShown colors (.insert [line]) ("  " ++ paint colors .green ("+" ++ endLine line))

theorem isShown_printEdit {colors : Bool} {e : Edit Text}
    (h : ∃ line, e = .keep [line] ∨ e = .delete [line] ∨ e = .insert [line]) :
    IsShown colors e (printEdit colors e) := by
  obtain ⟨line, rfl | rfl | rfl⟩ := h
  · simpa [printEdit] using IsShown.keep line
  · simpa [printEdit] using IsShown.delete line
  · simpa [printEdit] using IsShown.insert line

/-! ## Reading what is printed -/

/-- What ends the color of a line. -/
def colorEnd : Text := "\x1b[39m"

/-- A line without the end of a color in front of it. -/
def dropColorEnd (line : Text) : Text :=
  if colorEnd.isPrefixOf line then line.drop colorEnd.length else line

/-- Reads a line that is shown for an entry. -/
def readEntry? : Text → Option (Edit Text)
  | ' ' :: ' ' :: ' ' :: line => some (.keep [line])
  | ' ' :: ' ' :: '-' :: line => some (.delete [line])
  | ' ' :: ' ' :: '+' :: line => some (.insert [line])
  | ' ' :: ' ' :: '\x1b' :: '[' :: '3' :: '1' :: 'm' :: '-' :: line => some (.delete [line])
  | ' ' :: ' ' :: '\x1b' :: '[' :: '3' :: '2' :: 'm' :: '+' :: line => some (.insert [line])
  | _ => none

/-- Reads a difference that is printed, line by line. The end of a color stands on the next line, or
    alone on the last one. -/
def readDifference? (t : Text) : Option (Diff.Script Text) :=
  (((linesOf t).map dropColorEnd).filter fun line => !line.isEmpty).mapM readEntry?

variable {colors : Bool} {e : Edit Text} {s : Diff.Script Text} {pieces : List Text}

/-- A line of a text, ended, is a line with its end. -/
theorem isWhole_endLine {line t : Text} (h : line ∈ linesOf t) : IsWhole (endLine line) := by
  have hcut := isCut_linesOf t
  generalize linesOf t = lines at h hcut
  induction hcut with
  | nil => cases h
  | @last unbroken hline hne =>
    obtain rfl := List.mem_singleton.1 h
    have hfeed : line.getLast? ≠ some '\n' := fun h => hline.1 (List.mem_of_getLast? h)
    have hreturn : line.getLast? ≠ some '\r' := fun h => hline.2 (List.mem_of_getLast? h)
    rw [endLine, if_neg (by simp [hfeed, hreturn])]
    exact ⟨line, "\n", hline, .inl rfl, rfl⟩
  | @line unbroken stop rest lines hline hstop hrest ih =>
    rcases List.mem_cons.1 h with rfl | h
    · have hends : (unbroken ++ stop).getLast? = some '\n' ∨
          (unbroken ++ stop).getLast? = some '\r' := by
        cases hstop <;> simp
      rw [endLine, if_pos hends]
      refine ⟨unbroken, stop, hline, ?_, rfl⟩
      cases hstop with
      | lineFeed => exact .inl rfl
      | both => exact .inr (.inl rfl)
      | carriageReturn hhead => exact .inr (.inr rfl)
    · exact ih h

/-- What is shown for an entry is a line, which is read as the entry with its line ended, and
    perhaps the end of a color. -/
theorem IsShown.exists_line {piece : Text} (h : IsShown colors e piece)
    (hwhole : ∀ line, line ∈ e.before ∨ line ∈ e.after → IsWhole (endLine line)) :
    ∃ line tail, piece = ' ' :: line ++ tail ∧ IsWhole (' ' :: line) ∧
      (tail = [] ∨ tail = colorEnd) ∧ readEntry? (' ' :: line) = some (e.map endLine) := by
  have hmark : ∀ mark : Text, '\n' ∉ mark → '\r' ∉ mark → ∀ line, IsWhole (endLine line) →
      IsWhole (mark ++ endLine line) := fun mark hfeed hreturn line h => h.append ⟨hfeed, hreturn⟩
  cases h with
  | keep line =>
    have hline := hmark "   " (by decide) (by decide) line (hwhole line (.inl List.mem_cons_self))
    exact ⟨"  " ++ endLine line, [], (List.append_nil _).symm, hline, .inl rfl, rfl⟩
  | delete line =>
    have hended := hwhole line (.inl List.mem_cons_self)
    cases colors with
    | false =>
      have hline := hmark "  -" (by decide) (by decide) line hended
      exact ⟨" -" ++ endLine line, [], (List.append_nil _).symm, hline, .inl rfl, rfl⟩
    | true =>
      have hline := hmark "  \x1b[31m-" (by decide) (by decide) line hended
      refine ⟨" \x1b[31m-" ++ endLine line, colorEnd, ?_, hline, .inr rfl, rfl⟩
      simp [paint, Style.on, Style.off, colorEnd]
  | insert line =>
    have hended := hwhole line (.inr List.mem_cons_self)
    cases colors with
    | false =>
      have hline := hmark "  +" (by decide) (by decide) line hended
      exact ⟨" +" ++ endLine line, [], (List.append_nil _).symm, hline, .inl rfl, rfl⟩
    | true =>
      have hline := hmark "  \x1b[32m+" (by decide) (by decide) line hended
      refine ⟨" \x1b[32m+" ++ endLine line, colorEnd, ?_, hline, .inr rfl, rfl⟩
      simp [paint, Style.on, Style.off, colorEnd]

theorem dropColorEnd_append {front : Text} (hfront : front = [] ∨ front = colorEnd) (line : Text) :
    dropColorEnd (front ++ ' ' :: line) = ' ' :: line := by
  rcases hfront with rfl | rfl
  · rfl
  · rfl

/-- One line is read after the other. -/
theorem readDifference?_append {front line t : Text} (hfront : front = [] ∨ front = colorEnd)
    (hline : IsWhole (' ' :: line)) (ht : t[0]? ≠ some '\n') :
    readDifference? (front ++ ' ' :: line ++ t) = (do
      let e ← readEntry? (' ' :: line)
      let s ← readDifference? t
      return e :: s) := by
  have hunbroken : IsUnbroken front := by
    rcases hfront with rfl | rfl
    · exact isUnbroken_nil
    · exact ⟨by decide, by decide⟩
  unfold readDifference?
  rw [linesOf_append (hline.append hunbroken) ht, List.map_cons, dropColorEnd_append hfront,
    List.filter_cons_of_pos (by simp), List.mapM_cons]

/-- What is shown for entries starts with a space, if there is something. -/
theorem getElem?_flatten_of_isShown (h : List.Forall₂ (IsShown colors) s pieces) :
    pieces.flatten[0]? ≠ some '\n' := by
  cases h with
  | nil => simp
  | @cons e piece s pieces hpiece hrest =>
    have hspace : (piece :: pieces).flatten[0]? = some ' ' := by cases hpiece <;> rfl
    rw [hspace]
    decide

/-- **The entries are read back from what is printed**, with their lines ended. -/
theorem readDifference?_flatten (h : List.Forall₂ (IsShown colors) s pieces)
    (hwhole : ∀ line, line ∈ s.before ∨ line ∈ s.after → IsWhole (endLine line)) {front : Text}
    (hfront : front = [] ∨ front = colorEnd) :
    readDifference? (front ++ pieces.flatten) = some (s.map (Edit.map endLine)) := by
  -- on the entries: the end of the color of one stands in front of the next
  induction h generalizing front with
  | nil =>
    rcases hfront with rfl | rfl
    · rfl
    · rfl
  | @cons e piece s pieces hpiece hrest ih =>
    obtain ⟨line, tail, rfl, hline, htail, hread⟩ := hpiece.exists_line fun line hmem =>
      hwhole line (Diff.Script.mem_of_mem_entries List.mem_cons_self hmem)
    have hnext : (tail ++ pieces.flatten)[0]? ≠ some '\n' := by
      rcases htail with rfl | rfl
      · exact getElem?_flatten_of_isShown hrest
      · simp [colorEnd]
    have hrest' := ih (fun line hmem => hwhole line ?_) htail
    · rw [List.flatten_cons, List.append_assoc, ← List.append_assoc,
        readDifference?_append hfront hline hnext, hread, hrest']
      rfl
    · simp only [Diff.Script.before_cons, Diff.Script.after_cons, List.mem_append]
      exact hmem.imp .inr .inr

/-! ## Exactness -/

/-- **What an update prints of a difference is exact.** It prints nothing for a document that stays
    as it is, and for any other one an entry for each line that stays, goes or comes: three spaces and
    the line, or two, a sign and the line. The lines that stay or go, in order, are cut from the
    document as it is, and those that stay or come from the document as it would be; no entry goes or
    comes just if the two are the same. The entries are read back from what is printed, and with them
    the lines of both documents, where only a last line without an end has got one. The entries are
    found by halving at middle snakes, and then made compact. -/
theorem difference_is_exact (current expected : Text) (colors : Bool) (readme : Text)
    (regions : List RegionUpdate) (written : Bool) :
    let update : DocumentUpdate := { previous := current, updated := expected, regions }
    let printed := (printUpdate colors true readme { update, written }).difference
    let entries := (ofTexts current expected).entries
    printed = (if current = expected then [] else entries.flatMap (printEdit colors)) ∧
      (∀ e ∈ entries, ∃ line, e = .keep [line] ∨ e = .delete [line] ∨ e = .insert [line]) ∧
      (∀ e ∈ entries, IsShown colors e (printEdit colors e)) ∧
      (current ≠ expected → ∃ shown, readDifference? printed = some shown ∧
        shown = entries.map (Edit.map endLine) ∧
        shown.before = entries.before.map endLine ∧ shown.after = entries.after.map endLine) ∧
      (IsCut current entries.before ∧ entries.before.flatten = current) ∧
      (IsCut expected entries.after ∧ entries.after.flatten = expected) ∧
      ((∀ e ∈ entries, e.isKeep = true) ↔ current = expected) ∧
      ∃ s, Halves entries.before entries.after s ∧ ofTexts current expected = compact s := by
  intro update printed entries
  obtain ⟨hbefore, hafter⟩ := ofTexts_exact current expected
  have hbefore : entries.before = linesOf current := (Diff.Script.before_entries _).trans hbefore
  have hafter : entries.after = linesOf expected := (Diff.Script.after_entries _).trans hafter
  have hentry : ∀ e ∈ entries, ∃ line, e = .keep [line] ∨ e = .delete [line] ∨ e = .insert [line] :=
    fun e he => Diff.Script.eq_of_mem_entries he
  have hprinted : printed = if current = expected then [] else entries.flatMap (printEdit colors) := by
    have hscript : entries.flatMap (printEdit colors) =
        printScript colors (ofTexts current expected) := printScript_entries colors _
    rw [hscript]
    show (printUpdate colors true readme { update, written }).difference = _
    unfold printUpdate DocumentUpdate.isChanged
    by_cases h : current = expected
    · simp [update, h]
    · simp [update, h]
  have hread : current ≠ expected →
      readDifference? printed = some (entries.map (Edit.map endLine)) := by
    intro hne
    have hshown : List.Forall₂ (IsShown colors) entries (entries.map (printEdit colors)) := by
      rw [List.forall₂_map_right_iff, List.forall₂_same]
      exact fun e he => isShown_printEdit (hentry e he)
    have hwhole : ∀ line, line ∈ entries.before ∨ line ∈ entries.after → IsWhole (endLine line) := by
      intro line hline
      rw [hbefore, hafter] at hline
      exact hline.elim isWhole_endLine isWhole_endLine
    rw [hprinted, if_neg hne, List.flatMap_def]
    exact readDifference?_flatten hshown hwhole (.inl rfl)
  refine ⟨hprinted, hentry, fun e he => isShown_printEdit (hentry e he), fun hne => ?_, ?_, ?_,
    isKeep_entries_iff current expected, ?_⟩
  · exact ⟨_, hread hne, rfl, Diff.Script.before_map endLine entries,
      Diff.Script.after_map endLine entries⟩
  · exact hbefore ▸ ⟨isCut_linesOf current, flatten_linesOf current⟩
  · exact hafter ▸ ⟨isCut_linesOf expected, flatten_linesOf expected⟩
  · rw [hbefore, hafter]
    exact ⟨_, halves_divide _ _, rfl⟩

/-- A difference as it is printed, without colors and with them. Every line keeps the end that it
    has, and the last one gets a line feed. -/
theorem difference_is_exact_line :
    let update : DocumentUpdate :=
      { previous := "a\r\nb\rc", updated := "a\r\nx\rc", regions := [] }
    (printUpdate false true "README.md" { update, written := true }).difference =
        "   a\r\n  -b\r  +x\r   c\n" ∧
      (printUpdate true true "README.md" { update, written := true }).difference =
        "   a\r\n  \x1b[31m-b\r\x1b[39m  \x1b[32m+x\r\x1b[39m   c\n" := by
  intro update
  let old : List Text := ["b\r"]
  let new : List Text := ["x\r"]
  -- the lines in the middle are cut in front of the one that goes
  have hdivide : divide (linesOf "a\r\nb\rc") (linesOf "a\r\nx\rc") =
      [.keep ["a\r\n".toList], .insert new, .delete old, .keep ["c".toList]] := by
    have hstart : splitCommon (linesOf "a\r\nb\rc") (linesOf "a\r\nx\rc") =
        (["a\r\n".toList], old ++ ["c".toList], new ++ ["c".toList]) := by decide +kernel
    have hstop : splitCommonEnd (old ++ ["c".toList]) (new ++ ["c".toList]) =
        (["c".toList], old, new) := by decide +kernel
    have hmiddle : middle? old new = some (0, 1) := by decide +kernel
    have hinsert : divide [] new = [.insert new] := divide_eq_replacing rfl rfl (.inl rfl)
    have hdelete : divide old [] = [.delete old] := divide_eq_replacing rfl rfl (.inr rfl)
    have hcut := divide_eq_append hstart hstop (by decide) (by decide) hmiddle (by decide)
    rw [hcut]
    show _ ++ (divide [] new ++ divide old []) ++ _ = _
    rw [hinsert, hdelete]
    rfl
  have hentries : (ofTexts "a\r\nb\rc" "a\r\nx\rc").entries =
      [.keep ["a\r\n".toList], .delete old, .insert new, .keep ["c".toList]] := by
    rw [ofTexts, hdivide]
    simp [old, new, compact, compactDeletes, compactInserts, gather, Edit.turn, Moved.upAndDown,
      moveDelete, moveInsert, slide, Script.turn, Script.replacing, Script.prependKept,
      Script.entries, Edit.entries]
  have hne : ("a\r\nb\rc" : Text) ≠ "a\r\nx\rc" := by decide
  constructor
  · rw [(difference_is_exact "a\r\nb\rc" "a\r\nx\rc" false "README.md" [] true).1, if_neg hne,
      hentries]
    rfl
  · rw [(difference_is_exact "a\r\nb\rc" "a\r\nx\rc" true "README.md" [] true).1, if_neg hne,
      hentries]
    rfl

end ListeningCharts.Cli
