import ListeningCharts.Proofs.DatePatterns

/-! # Quoting a text in a date pattern

    A text is quoted by doubling its apostrophes and putting it between two more. Two apostrophes
    are one outside quotes, but an apostrophe inside quotes always closes them. So the apostrophes of a
    quotation are not paired as they were doubled, and some of them are lost.

    * What a quotation is read as is told character by character, with the quote open or not yet
      (`unquoted`, `readUnits_doubled`).
    * That is the text itself exactly if its apostrophes stand at its ends, around something else
      (`unquoted_eq_self_iff`).
    * Main statement: a quotation is accepted between any two patterns, and when it writes the text
      (`quotation_read_back_iff`). -/

namespace ListeningCharts

namespace DatePattern

/-- The text with every apostrophe twice. -/
def doubled : Text → Text
  | [] => []
  | c :: t => if c = '\'' then '\'' :: '\'' :: doubled t else c :: doubled t

/-- The text in quotes. -/
def quotation (t : Text) : Text := '\'' :: (doubled t ++ ['\''])

/-- What a text with doubled apostrophes is read as, up to the apostrophe behind it, in an open quote
    or behind an apostrophe outside quotes. -/
def unquoted : Bool → Text → Text
  | true, [] => []
  | false, [] => ['\'']
  | isOpen, c :: t =>
    if c = '\'' then if isOpen then unquoted false t else '\'' :: unquoted false t
    else c :: unquoted true t

/-- The apostrophes of the text stand at its ends, and something else stands between them. -/
def QuotesAtEnds (t : Text) : Prop :=
  ∃ front middle back, t = front ++ middle ++ back ∧ (∀ c ∈ front, c = '\'') ∧
    middle ≠ [] ∧ '\'' ∉ middle ∧ ∀ c ∈ back, c = '\''

variable {c : Char} {t rest : Text}

theorem unquoted_cons_of_ne (isOpen : Bool) (h : c ≠ '\'') :
    unquoted isOpen (c :: t) = c :: unquoted true t := by
  cases isOpen <;> exact if_neg h

/-! ## Reading a quotation -/

/-- **How doubled apostrophes are read**, in an open quote and behind an apostrophe. -/
theorem readUnits_doubled (t rest : Text) :
    readUnits .inside (doubled t ++ '\'' :: rest) = (do
      return (unquoted true t).map .literal ++ (← readUnits (.outside none) rest)) ∧
    readUnits (.outside none) ('\'' :: (doubled t ++ '\'' :: rest)) = (do
      return (unquoted false t).map .literal ++ (← readUnits (.outside none) rest)) := by
  induction t with
  | nil =>
    constructor
    · show readUnits .inside ('\'' :: rest) = _
      rw [readUnits_inside_quote]
      exact (bind_pure _).symm
    · show readUnits (.outside none) ('\'' :: '\'' :: rest) = _
      rw [readUnits_outside_pair, endRun_none, pure_bind]
      rfl
  | cons c t ih =>
    obtain ⟨hinside, houtside⟩ := ih
    by_cases hc : c = '\''
    · subst hc
      have hdoubled : doubled ('\'' :: t) = '\'' :: '\'' :: doubled t := if_pos rfl
      rw [hdoubled]
      constructor
      · -- the first of the two closes the quote, the second stands outside
        rw [List.cons_append, readUnits_inside_quote]
        exact houtside
      · rw [List.cons_append, List.cons_append, readUnits_outside_pair, endRun_none, pure_bind,
          houtside, bind_assoc]
        rfl
    · have hdoubled : doubled (c :: t) = c :: doubled t := if_neg hc
      have hopen := readUnits_inside_cons_literals hc hinside
      rw [hdoubled, List.cons_append, unquoted_cons_of_ne true hc, unquoted_cons_of_ne false hc]
      refine ⟨hopen, ?_⟩
      rw [readUnits_quote (by simpa using hc)]
      exact hopen

/-- **A quotation between two patterns is accepted.** -/
theorem parse_quotation {p q : Text} {front back : DatePattern} (hp : parse p = .ok front)
    (hq : parse q = .ok back) (t : Text) :
    parse (p ++ quotation t ++ q) = .ok {
      source := p ++ quotation t ++ q
      units := front.units ++ ((unquoted false t).map .literal ++ back.units) } := by
  obtain ⟨-, hfront⟩ := parse_eq_ok_iff.1 hp
  obtain ⟨-, hback⟩ := parse_eq_ok_iff.1 hq
  obtain ⟨tokens, unclosed, hreads⟩ := exists_readsAs p
  obtain ⟨rfl, -⟩ := (readUnits_eq_ok_iff hreads).1 hfront
  have hquote : ∀ letter, ('\'' :: (doubled t ++ '\'' :: q)).head? = some letter →
      letter.isAlpha = false := by
    intro letter hletter
    cases hletter
    decide
  have hsource : p ++ quotation t ++ q = p ++ '\'' :: (doubled t ++ '\'' :: q) := by
    simp [quotation]
  rw [parse_eq_ok_iff]
  refine ⟨rfl, ?_⟩
  rw [hsource, readUnits_append hreads hquote, (readUnits_doubled t q).2, hfront, hback]
  rfl

/-! ## Texts that are read back -/

/-- Apostrophes alone are read as one more. -/
theorem unquoted_of_all (h : ∀ c ∈ t, c = '\'') : unquoted false t = '\'' :: t := by
  induction t with
  | nil => rfl
  | cons c t ih =>
    obtain ⟨rfl, hrest⟩ := List.forall_mem_cons.1 h
    show '\'' :: unquoted false t = _
    rw [ih hrest]

/-- At most one apostrophe is gained, and none behind another character. -/
theorem length_unquoted_le (t : Text) :
    (unquoted true t).length ≤ t.length ∧ (unquoted false t).length ≤ t.length + 1 ∧
      ((∃ c ∈ t, c ≠ '\'') → (unquoted false t).length ≤ t.length) := by
  induction t with
  | nil => exact ⟨Nat.le_refl _, Nat.le_refl _, nofun⟩
  | cons c t ih =>
    obtain ⟨hopen, hnext, hother⟩ := ih
    by_cases hc : c = '\''
    · subst hc
      refine ⟨hnext, Nat.succ_le_succ hnext, fun hsome => ?_⟩
      apply Nat.succ_le_succ
      apply hother
      obtain ⟨d, hd, hne⟩ := hsome
      rcases List.mem_cons.1 hd with rfl | hd
      · exact absurd rfl hne
      · exact ⟨d, hd, hne⟩
    · rw [unquoted_cons_of_ne true hc, unquoted_cons_of_ne false hc]
      simp only [List.length_cons]
      exact ⟨by omega, by omega, fun _ => by omega⟩

/-- In an open quote a text is read as itself if its apostrophes stand at its end. -/
theorem unquoted_true_eq_self_iff : unquoted true t = t ↔
    ∃ middle back, t = middle ++ back ∧ '\'' ∉ middle ∧ ∀ c ∈ back, c = '\'' := by
  induction t with
  | nil => exact iff_of_true rfl ⟨[], [], rfl, List.not_mem_nil, nofun⟩
  | cons c t ih =>
    by_cases hc : c = '\''
    · subst hc
      show unquoted false t = '\'' :: t ↔ _
      constructor
      · intro heq
        by_cases hall : ∀ c ∈ t, c = '\''
        · exact ⟨[], '\'' :: t, rfl, List.not_mem_nil, List.forall_mem_cons.2 ⟨rfl, hall⟩⟩
        · -- another character behind it would make the text shorter
          have hsome : ∃ c ∈ t, c ≠ '\'' := by simpa using hall
          have hle := (length_unquoted_le t).2.2 hsome
          rw [heq, List.length_cons] at hle
          omega
      · rintro ⟨middle, back, heq, hmiddle, hback⟩
        cases middle with
        | nil =>
          rw [List.nil_append] at heq
          subst heq
          exact unquoted_of_all (List.forall_mem_cons.1 hback).2
        | cons d middle =>
          cases heq
          exact absurd List.mem_cons_self hmiddle
    · rw [unquoted_cons_of_ne true hc, List.cons.injEq, and_iff_right rfl, ih]
      constructor
      · rintro ⟨middle, back, rfl, hmiddle, hback⟩
        refine ⟨c :: middle, back, rfl, ?_, hback⟩
        rw [List.mem_cons, not_or]
        exact ⟨Ne.symm hc, hmiddle⟩
      · rintro ⟨middle, back, heq, hmiddle, hback⟩
        cases middle with
        | nil =>
          rw [List.nil_append] at heq
          subst heq
          exact absurd (hback c List.mem_cons_self) hc
        | cons d middle =>
          cases heq
          exact ⟨middle, back, rfl, fun hmem => hmiddle (List.mem_cons_of_mem _ hmem), hback⟩

/-- **A text is read back from its quotation if its apostrophes stand at its ends.** -/
theorem unquoted_eq_self_iff : unquoted false t = t ↔ QuotesAtEnds t := by
  induction t with
  | nil =>
    refine iff_of_false nofun ?_
    rintro ⟨front, middle, back, heq, -, hne, -⟩
    have hnil := List.append_eq_nil_iff.1 heq.symm
    exact hne (List.append_eq_nil_iff.1 hnil.1).2
  | cons c t ih =>
    by_cases hc : c = '\''
    · subst hc
      show '\'' :: unquoted false t = '\'' :: t ↔ _
      rw [List.cons.injEq, and_iff_right rfl, ih]
      constructor
      · rintro ⟨front, middle, back, rfl, hfront, hmiddle⟩
        exact ⟨'\'' :: front, middle, back, rfl, List.forall_mem_cons.2 ⟨rfl, hfront⟩, hmiddle⟩
      · rintro ⟨front, middle, back, heq, hfront, hne, hmiddle, hback⟩
        cases front with
        | nil =>
          obtain ⟨d, middle, rfl⟩ := List.exists_cons_of_ne_nil hne
          cases heq
          exact absurd List.mem_cons_self hmiddle
        | cons d front =>
          cases heq
          exact ⟨front, middle, back, rfl, (List.forall_mem_cons.1 hfront).2, hne, hmiddle, hback⟩
    · rw [unquoted_cons_of_ne false hc, ← unquoted_cons_of_ne true hc, unquoted_true_eq_self_iff]
      constructor
      · rintro ⟨middle, back, heq, hmiddle, hback⟩
        refine ⟨[], middle, back, heq, nofun, fun hnil => ?_, hmiddle, hback⟩
        rw [hnil, List.nil_append] at heq
        apply hc
        apply hback
        rw [← heq]
        exact List.mem_cons_self
      · rintro ⟨front, middle, back, heq, hfront, -, hmiddle, hback⟩
        cases front with
        | nil => exact ⟨middle, back, heq, hmiddle, hback⟩
        | cons d front =>
          cases heq
          exact absurd (hfront c List.mem_cons_self) hc

end DatePattern

open DatePattern

/-- **A quotation is accepted between any two patterns, and writes its text back exactly if the
    apostrophes of the text stand at its ends.** An apostrophe between two other characters is lost,
    and apostrophes alone gain one. -/
theorem quotation_read_back_iff {p q : Text} {front back : DatePattern} (hp : parse p = .ok front)
    (hq : parse q = .ok back) (t : Text) :
    ∃ r, parse (p ++ quotation t ++ q) = .ok r ∧
      ∀ seconds, CivilTime.isRepresentable seconds = true →
        r.format seconds = front.format seconds ++ unquoted false t ++ back.format seconds ∧
        (r.format seconds = front.format seconds ++ t ++ back.format seconds ↔ QuotesAtEnds t) := by
  refine ⟨_, parse_quotation hp hq t, fun seconds hseconds => ?_⟩
  have hformat : ({ source := p ++ quotation t ++ q
                    units := front.units ++ ((unquoted false t).map .literal ++ back.units) } :
      DatePattern).format seconds =
        front.format seconds ++ unquoted false t ++ back.format seconds := by
    simp only [format, if_pos hseconds, List.flatMap_append,
      PatternToken.flatMap_formatUnit_literal, List.append_assoc]
  refine ⟨hformat, ?_⟩
  rw [hformat, List.append_left_inj, List.append_right_inj]
  exact unquoted_eq_self_iff

/-- Apostrophes at both ends of a text are written back, between a day and an hour. -/
theorem quotation_read_back_iff_ends :
    let t : Text := "'90s''"
    QuotesAtEnds t ∧ ∃ r, parse ("d. " ++ quotation t ++ " H") = .ok r ∧
      r.format 1037793040 = ("20. '90s'' 11" : Text) := by
  intro t
  have hends : QuotesAtEnds t :=
    ⟨['\''], "90s", ['\'', '\''], rfl, by simp, by decide, by decide, by simp⟩
  obtain ⟨r, hr, hwritten⟩ := @quotation_read_back_iff "d. " " H" _ _ rfl rfl t
  refine ⟨hends, r, hr, ?_⟩
  rw [(hwritten 1037793040 (by decide)).2.2 hends]
  decide

/-- The apostrophe inside `o'clock` is lost, so not every text can be quoted. -/
theorem not_quotation_read_back_clock :
    ¬ ∀ (p q t : Text) (front back : DatePattern) (seconds : Int), parse p = .ok front →
      parse q = .ok back → '\'' ∉ p → '\'' ∉ q → t ≠ [] →
      CivilTime.isRepresentable seconds = true →
      ∃ r, parse (p ++ quotation t ++ q) = .ok r ∧
        r.format seconds = front.format seconds ++ t ++ back.format seconds := by
  intro h
  obtain ⟨r, hr, hformat⟩ := h "h " [] "o'clock" _ _ 1037793040 rfl rfl (by decide) (by decide)
    (by decide) (by decide)
  cases hr
  exact absurd hformat (by decide)

end ListeningCharts
