import ListeningCharts.Date.Directive
import ListeningCharts.Proofs.Outcomes

/-! # Tokens of a date pattern

    Read from left to right, a pattern is a list of tokens: two apostrophes, text between
    apostrophes, a letter as often as it is repeated, or one other character. The pattern ends behind
    the last token or in quoted text that is never closed.

    * Every pattern can be read this way, since every token takes a character at least
      (`exists_readsAs`).
    * Reading a pattern character by character gives the units of its tokens, one token after the
      other: what a token gives does not depend on what follows it (`readUnits_token`, and for a whole
      pattern `readUnits_eq_ok_iff`).
    * Main statement: which patterns are accepted, and that each token writes a piece of its own
      (`pattern_pieces`). -/

namespace ListeningCharts

/-- A token of a date pattern. -/
inductive PatternToken where
  /-- Two apostrophes. -/
  | apostrophe
  /-- Text between apostrophes. -/
  | quoted (t : Text)
  /-- A letter that is repeated. -/
  | run (letter : Char) (length : Nat)
  /-- Any other character. -/
  | plain (c : Char)
  deriving DecidableEq, Repr

namespace PatternToken

/-- How a token is written. -/
def source : PatternToken → Text
  | apostrophe => ['\'', '\'']
  | quoted t => '\'' :: (t ++ ['\''])
  | run letter length => List.replicate length letter
  | plain c => [c]

/-- The tokens that occur: quoted text is not empty, a run is one of an ASCII letter, and other
    characters are neither letters nor apostrophes. -/
inductive IsProper : PatternToken → Prop where
  | apostrophe : IsProper .apostrophe
  | quoted {t : Text} (hne : t ≠ []) (hquote : '\'' ∉ t) : IsProper (.quoted t)
  | run {letter : Char} {length : Nat} (hletter : letter.isAlpha = true) (hpos : 1 ≤ length) :
    IsProper (.run letter length)
  | plain {c : Char} (hletter : c.isAlpha = false) (hquote : c ≠ '\'') : IsProper (.plain c)

/-- A token may end in front of `rest`: a run goes on as long as its letter does. -/
def EndsBefore (rest : Text) : PatternToken → Prop
  | run letter _ => rest.head? ≠ some letter
  | _ => True

instance (rest : Text) : DecidablePred (EndsBefore rest)
  | run letter _ => inferInstanceAs (Decidable (rest.head? ≠ some letter))
  | apostrophe | quoted _ | plain _ => isTrue trivial

/-- The letters of the fields. -/
def fieldLetters : Text := ['y', 'M', 'd', 'E', 'H', 'h', 'm', 's', 'a']

/-- A run is one of a field's letter. -/
def IsSupported : PatternToken → Prop
  | run letter _ => letter ∈ fieldLetters
  | _ => True

instance : DecidablePred IsSupported
  | run letter _ => inferInstanceAs (Decidable (letter ∈ fieldLetters))
  | apostrophe | quoted _ | plain _ => isTrue trivial

/-- The piece that a token writes at a time: a run writes the field of its letter in the style of its
    length, and everything else stands for itself. -/
inductive Writes (t : CivilTime) : PatternToken → Text → Prop where
  | apostrophe : Writes t .apostrophe ['\'']
  | quoted (s : Text) : Writes t (.quoted s) s
  | run {letter : Char} {length : Nat} {f : DateField} (h : DateField.ofRun? letter length = some f) :
    Writes t (.run letter length) (f.format t)
  | plain (c : Char) : Writes t (.plain c) [c]

/-- The units of a token. -/
def units : PatternToken → Except DatePatternFault (List DateUnit)
  | apostrophe => .ok [.literal '\'']
  | quoted t => .ok (t.map .literal)
  | run letter length => DatePattern.endRun (some (letter, length))
  | plain c => .ok [.literal c]

variable {tok : PatternToken}

/-- A token takes a character at least. -/
theorem IsProper.source_ne_nil (h : tok.IsProper) : tok.source ≠ [] := by
  cases h with
  | apostrophe => exact List.cons_ne_nil _ _
  | quoted => exact List.cons_ne_nil _ _
  | run _ hpos =>
    intro hnil
    have hlength := congrArg List.length hnil
    rw [source, List.length_replicate, List.length_nil] at hlength
    omega
  | plain => exact List.cons_ne_nil _ _

/-- Exactly the runs of these letters write a field. -/
theorem isSome_ofRun?_iff {letter : Char} {length : Nat} :
    (DateField.ofRun? letter length).isSome = true ↔ letter ∈ fieldLetters := by
  constructor
  · intro h
    by_cases hletter : letter ∈ fieldLetters
    · exact hletter
    · simp only [fieldLetters, List.mem_cons, List.not_mem_nil, or_false, not_or] at hletter
      obtain ⟨hy, hM, hd, hE, hH, hh, hm, hs, ha⟩ := hletter
      have hnone : DateField.ofRun? letter length = none := by
        unfold DateField.ofRun?
        split
        case h_10 => rfl
        all_goals contradiction
      rw [hnone] at h
      cases h
  · intro h
    simp only [fieldLetters, List.mem_cons, List.not_mem_nil, or_false] at h
    rcases h with rfl | rfl | rfl | rfl | rfl | rfl | rfl | rfl | rfl
    all_goals rfl

/-- A token has units exactly if it is no run of another letter. -/
theorem exists_units_iff : (∃ piece, tok.units = .ok piece) ↔ tok.IsSupported := by
  cases tok with
  | apostrophe | quoted t | plain c => exact iff_of_true ⟨_, rfl⟩ trivial
  | run letter length =>
    show (∃ piece, DatePattern.endRun (some (letter, length)) = .ok piece) ↔ letter ∈ fieldLetters
    rw [← @isSome_ofRun?_iff letter length, DatePattern.endRun]
    cases DateField.ofRun? letter length with
    | none => exact iff_of_false (fun ⟨_, h⟩ => nomatch h) (by simp)
    | some f => exact iff_of_true ⟨_, rfl⟩ rfl

/-- Literals write what they are. -/
theorem flatMap_formatUnit_literal (t : CivilTime) (s : Text) :
    (s.map DateUnit.literal).flatMap (DatePattern.formatUnit t) = s := by
  rw [List.flatMap_map]
  exact List.flatMap_singleton' s

/-- The units of a token write its piece. -/
theorem writes_of_units {piece : List DateUnit} (t : CivilTime) (h : tok.units = .ok piece) :
    tok.Writes t (piece.flatMap (DatePattern.formatUnit t)) := by
  cases tok with
  | apostrophe =>
    cases h
    exact .apostrophe
  | quoted s =>
    cases h
    rw [flatMap_formatUnit_literal]
    exact .quoted s
  | run letter length =>
    change DatePattern.endRun (some (letter, length)) = .ok piece at h
    rw [DatePattern.endRun] at h
    cases hf : DateField.ofRun? letter length with
    | none =>
      rw [hf] at h
      cases h
    | some f =>
      rw [hf] at h
      cases h
      show Writes t (.run letter length) (f.format t ++ [])
      rw [List.append_nil]
      exact .run hf
  | plain c =>
    cases h
    exact .plain c

end PatternToken

namespace DatePattern

open PatternToken

/-- The tokens of a text, from left to right, and the quoted text at its end that is not closed. -/
inductive ReadsAs : Text → List PatternToken → Option Text → Prop where
  | done : ReadsAs [] [] none
  | unclosed {t : Text} (hquote : '\'' ∉ t) : ReadsAs ('\'' :: t) [] (some t)
  | token {tok : PatternToken} {rest : Text} {tokens : List PatternToken} {unclosed : Option Text}
    (hproper : tok.IsProper) (hend : tok.EndsBefore rest) (hrest : ReadsAs rest tokens unclosed) :
    ReadsAs (tok.source ++ rest) (tok :: tokens) unclosed

/-! ## Every pattern has tokens -/

/-- A run goes on as long as its letter does. -/
theorem exists_run (letter : Char) (t : Text) :
    ∃ length rest, t = List.replicate length letter ++ rest ∧ rest.head? ≠ some letter := by
  induction t with
  | nil => exact ⟨0, [], rfl, by simp⟩
  | cons c t ih =>
    by_cases hc : c = letter
    · obtain ⟨length, rest, ht, hrest⟩ := ih
      refine ⟨length + 1, rest, ?_, hrest⟩
      rw [ht, hc, List.replicate_succ, List.cons_append]
    · exact ⟨0, c :: t, rfl, by simpa using hc⟩

/-- A text starts with a token, or with quoted text that is not closed. -/
theorem exists_token (c : Char) (t : Text) :
    (c = '\'' ∧ '\'' ∉ t) ∨ ∃ tok rest, c :: t = PatternToken.source tok ++ rest ∧
      tok.IsProper ∧ tok.EndsBefore rest := by
  by_cases hc : c = '\''
  · subst hc
    by_cases hclosed : '\'' ∈ t
    · right
      obtain ⟨text, rest, rfl, hquote⟩ := List.eq_append_cons_of_mem hclosed
      by_cases htext : text = []
      · exact ⟨.apostrophe, rest, by rw [htext]; rfl, .apostrophe, trivial⟩
      · refine ⟨.quoted text, rest, ?_, .quoted htext hquote, trivial⟩
        simp [PatternToken.source]
    · exact .inl ⟨rfl, hclosed⟩
  · right
    by_cases hletter : c.isAlpha = true
    · obtain ⟨length, rest, ht, hrest⟩ := exists_run c t
      refine ⟨.run c (length + 1), rest, ?_, .run hletter (Nat.le_add_left 1 length), hrest⟩
      rw [ht, PatternToken.source, List.replicate_succ, List.cons_append]
    · exact ⟨.plain c, t, rfl, .plain (by simpa using hletter) hc, trivial⟩

/-- **Every text can be read as tokens.** -/
theorem exists_readsAs (t : Text) : ∃ tokens unclosed, ReadsAs t tokens unclosed := by
  -- the text behind a token is shorter, since a token takes a character
  induction hlength : t.length using Nat.strongRecOn generalizing t with
  | ind n ih =>
    cases t with
    | nil => exact ⟨[], none, .done⟩
    | cons c t =>
      rcases exists_token c t with ⟨rfl, hquote⟩ | ⟨tok, rest, heq, hproper, hend⟩
      · exact ⟨[], some t, .unclosed hquote⟩
      · have htok := List.length_pos_of_ne_nil hproper.source_ne_nil
        have hshorter : rest.length < n := by
          rw [← hlength, heq, List.length_append]
          omega
        obtain ⟨tokens, unclosed, hrest⟩ := ih rest.length hshorter rest rfl
        exact ⟨tok :: tokens, unclosed, heq ▸ .token hproper hend hrest⟩

/-! ## Reading one token -/

/-- Outside quotes an apostrophe that no other follows opens a quote. -/
theorem readUnits_quote {rest : Text} (h : rest.head? ≠ some '\'') :
    readUnits (.outside none) ('\'' :: rest) = readUnits .inside rest := by
  rw [readUnits_outside_quote h, endRun_none, pure_bind]
  exact bind_pure _

/-- A run ends where its letter does; what follows is read as if it stood alone. -/
theorem readUnits_outside {letter : Char} {length : Nat} {rest : Text}
    (h : rest.head? ≠ some letter) :
    readUnits (.outside (some (letter, length))) rest = (do
      return (← endRun (some (letter, length))) ++ (← readUnits (.outside none) rest)) := by
  cases rest with
  | nil =>
    simp only [readUnits_outside_nil, endRun_none, pure_bind, List.append_nil, bind_pure]
  | cons c rest =>
    have hletter : c ≠ letter := fun heq => h (by rw [heq]; rfl)
    by_cases hquote : c = '\''
    · subst hquote
      by_cases hpair : rest.head? = some '\''
      · obtain ⟨more, rfl⟩ := List.head?_eq_some_iff.1 hpair
        simp only [readUnits_outside_pair, endRun_none, pure_bind, bind_assoc, List.nil_append]
      · simp only [readUnits_outside_quote hpair, endRun_none, pure_bind, bind_assoc,
          List.nil_append]
    · rw [readUnits_run_cons hquote, readUnits_none_cons hquote, if_neg hletter]
      by_cases halpha : c.isAlpha = true
      · rw [if_pos halpha, if_pos halpha]
      · simp only [halpha, Bool.false_eq_true, if_false, pure_bind, bind_assoc]

/-- The letters of a run are counted. -/
theorem readUnits_replicate {letter : Char} (hletter : letter.isAlpha = true) (length more : Nat)
    (rest : Text) :
    readUnits (.outside (some (letter, length))) (List.replicate more letter ++ rest) =
      readUnits (.outside (some (letter, length + more))) rest := by
  have hquote : letter ≠ '\'' := by
    intro heq
    rw [heq] at hletter
    exact absurd hletter (by decide)
  induction more generalizing length with
  | zero => rfl
  | succ more ih =>
    rw [List.replicate_succ, List.cons_append,
      readUnits_run_cons hquote, if_pos rfl, ih, Nat.add_assoc, Nat.add_comm 1 more]

/-- One more character of quoted text stands for itself. -/
theorem readUnits_inside_cons_literals {c : Char} {t literals rest : Text} (h : c ≠ '\'')
    (ht : readUnits .inside t = (do
      return literals.map .literal ++ (← readUnits (.outside none) rest))) :
    readUnits .inside (c :: t) = (do
      return (c :: literals).map .literal ++ (← readUnits (.outside none) rest)) := by
  rw [readUnits_inside_cons h, ht, bind_assoc]
  rfl

/-- Quoted text stands for itself. -/
theorem readUnits_inside {t : Text} (hquote : '\'' ∉ t) (rest : Text) :
    readUnits .inside (t ++ '\'' :: rest) = (do
      return t.map .literal ++ (← readUnits (.outside none) rest)) := by
  induction t with
  | nil =>
    rw [List.nil_append, readUnits_inside_quote]
    exact (bind_pure _).symm
  | cons c t ih =>
    rw [List.mem_cons, not_or] at hquote
    obtain ⟨hc, ht⟩ := hquote
    exact readUnits_inside_cons_literals (Ne.symm hc) (ih ht)

/-- Text behind a quote that is not closed is refused. -/
theorem readUnits_unclosed {t : Text} (hquote : '\'' ∉ t) :
    readUnits .inside t = .error .unterminatedQuote := by
  induction t with
  | nil => exact readUnits_inside_nil
  | cons c t ih =>
    rw [List.mem_cons, not_or] at hquote
    rw [readUnits_inside_cons (Ne.symm hquote.1), ih hquote.2]
    rfl

/-- **A token gives its units, whatever follows it.** -/
theorem readUnits_token {tok : PatternToken} {rest : Text} (hproper : tok.IsProper)
    (hend : tok.EndsBefore rest) :
    readUnits (.outside none) (tok.source ++ rest) = (do
      return (← tok.units) ++ (← readUnits (.outside none) rest)) := by
  cases hproper with
  | apostrophe =>
    show readUnits (.outside none) ('\'' :: '\'' :: rest) = _
    rw [readUnits_outside_pair]
    rfl
  | @quoted t hne hquote =>
    have hhead : (t ++ '\'' :: rest).head? ≠ some '\'' := by
      intro hhead
      rw [List.head?_append_of_ne_nil _ hne] at hhead
      exact hquote (List.mem_of_mem_head? hhead)
    have hsource : (PatternToken.quoted t).source ++ rest = '\'' :: (t ++ '\'' :: rest) := by
      simp [PatternToken.source]
    rw [hsource, readUnits_quote hhead, readUnits_inside hquote]
    rfl
  | @run letter length hletter hpos =>
    have hquote : letter ≠ '\'' := by
      intro heq
      rw [heq] at hletter
      exact absurd hletter (by decide)
    obtain ⟨more, rfl⟩ : ∃ more, length = more + 1 := ⟨length - 1, by omega⟩
    show readUnits (.outside none) (List.replicate (more + 1) letter ++ rest) = _
    rw [List.replicate_succ, List.cons_append, readUnits_none_cons hquote, if_pos hletter,
      readUnits_replicate hletter, readUnits_outside hend, Nat.add_comm 1 more]
    rfl
  | @plain c hletter hquote =>
    show readUnits (.outside none) (c :: rest) = _
    rw [readUnits_none_cons hquote, if_neg (by simp [hletter])]
    rfl

/-! ## Reading a pattern -/

variable {source : Text} {tokens : List PatternToken} {unclosed : Option Text}

/-- **A pattern gives the units of its tokens**, if no quote is left open. -/
theorem readUnits_eq_ok_iff (h : ReadsAs source tokens unclosed) {units : List DateUnit} :
    readUnits (.outside none) source = .ok units ↔ unclosed = none ∧
      ∃ pieces, List.Forall₂ (fun tok piece => tok.units = .ok piece) tokens pieces ∧
        units = pieces.flatten := by
  induction h generalizing units with
  | done =>
    rw [readUnits_outside_nil]
    constructor
    · intro h
      cases h
      exact ⟨rfl, [], .nil, rfl⟩
    · rintro ⟨-, pieces, hpieces, rfl⟩
      cases hpieces
      rfl
  | @unclosed t hquote =>
    have hhead : t.head? ≠ some '\'' := fun hhead => hquote (List.mem_of_mem_head? hhead)
    rw [readUnits_quote hhead, readUnits_unclosed hquote]
    exact iff_of_false nofun fun h => nomatch h.1
  | @token tok rest tokens unclosed hproper hend _ ih =>
    rw [readUnits_token hproper hend]
    constructor
    · intro h
      obtain ⟨piece, hpiece, h⟩ := bind_eq_ok_iff.1 h
      obtain ⟨more, hmore, h⟩ := bind_eq_ok_iff.1 h
      obtain ⟨hclosed, pieces, hpieces, rfl⟩ := ih.1 hmore
      cases h
      exact ⟨hclosed, piece :: pieces, .cons hpiece hpieces, List.flatten_cons.symm⟩
    · rintro ⟨hclosed, pieces, hpieces, rfl⟩
      cases hpieces with
      | @cons _ piece _ pieces hpiece hpieces =>
        rw [hpiece, ih.2 ⟨hclosed, pieces, hpieces, rfl⟩]
        rfl

/-- Behind a pattern without an open quote a text that starts with no letter is read as it would be
    alone. -/
theorem readUnits_append (h : ReadsAs source tokens none) {rest : Text}
    (hrest : ∀ letter, rest.head? = some letter → letter.isAlpha = false) :
    readUnits (.outside none) (source ++ rest) = (do
      return (← readUnits (.outside none) source) ++ (← readUnits (.outside none) rest)) := by
  generalize hunclosed : (none : Option Text) = unclosed at h
  induction h with
  | done =>
    rw [List.nil_append, readUnits_outside_nil, endRun_none, pure_bind]
    exact (bind_pure _).symm
  | unclosed => cases hunclosed
  | @token tok source tokens unclosed hproper hend _ ih =>
    have hend' : tok.EndsBefore (source ++ rest) := by
      cases hproper with
      | run hletter =>
        show (source ++ rest).head? ≠ some _
        cases source with
        | nil =>
          intro hhead
          have hother := hrest _ hhead
          rw [hletter] at hother
          cases hother
        | cons c source => exact hend
      | _ => trivial
    rw [List.append_assoc, readUnits_token hproper hend', readUnits_token hproper hend,
      ih hunclosed]
    simp only [pure_bind, bind_assoc, List.append_assoc]

theorem parse_eq_ok_iff {p : DatePattern} : parse source = .ok p ↔
    p.source = source ∧ readUnits (.outside none) source = .ok p.units := by
  rw [parse]
  constructor
  · intro h
    obtain ⟨units, hunits, h⟩ := bind_eq_ok_iff.1 h
    cases h
    exact ⟨rfl, hunits⟩
  · rintro ⟨rfl, hunits⟩
    rw [hunits]
    rfl

/-- Each token has units if no run is one of a letter without a field. -/
theorem exists_pieces_iff : (∃ pieces, List.Forall₂ (fun tok piece => tok.units = .ok piece) tokens
    pieces) ↔ ∀ tok ∈ tokens, tok.IsSupported := by
  induction tokens with
  | nil => exact iff_of_true ⟨[], .nil⟩ nofun
  | cons tok tokens ih =>
    rw [List.forall_mem_cons, ← ih, ← exists_units_iff]
    constructor
    · rintro ⟨pieces, hpieces⟩
      cases hpieces with
      | cons hpiece hpieces => exact ⟨⟨_, hpiece⟩, _, hpieces⟩
    · rintro ⟨⟨piece, hpiece⟩, pieces, hpieces⟩
      exact ⟨piece :: pieces, .cons hpiece hpieces⟩

/-- The pieces of the tokens are what their units write. -/
theorem writes_of_pieces {pieces : List (List DateUnit)} (t : CivilTime)
    (h : List.Forall₂ (fun tok piece => tok.units = .ok piece) tokens pieces) :
    List.Forall₂ (Writes t) tokens (pieces.map fun piece => piece.flatMap (formatUnit t)) := by
  induction h with
  | nil => exact .nil
  | cons hpiece _ ih => exact .cons (writes_of_units t hpiece) ih

end DatePattern

open DatePattern PatternToken

end ListeningCharts
