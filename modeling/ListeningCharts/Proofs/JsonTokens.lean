import ListeningCharts.Json.Tree
import Mathlib.Data.List.TakeDrop
import Mathlib.Data.List.TakeWhile

/-! # JSON tokens

    How the tokens of a JSON text are written, as relations, and that the functions that read tokens
    follow them.

    * **Gaps**: what may stand between tokens (`IsGap`).
    * **Numbers** without their sign: a whole part without a leading zero, a fraction, an exponent
      (`Numeral.Spelled`). What is read is spelled so (`spelled_of_readNumber`), and what is spelled
      so is read if nothing follows with which the number would go on (`Numeral.Spelled.read`).
    * **Strings** between their quotes: characters, escapes and code units in hexadecimal. Here too,
      what is spelled is read (`StringToken.Spelled.read`) and what is read is spelled
      (`spelled_of_readString`).
    * **Plain tokens**: a number in decimal and a text without escapes are spelled by themselves.
-/

namespace ListeningCharts.Json

/-! ## Gaps -/

/-- A gap between tokens. -/
def IsGap (t : Text) : Prop := ∀ c ∈ t, isSpace c = true

theorem isGap_nil : IsGap [] := by simp [IsGap]

theorem IsGap.append {s t : Text} (hs : IsGap s) (ht : IsGap t) : IsGap (s ++ t) :=
  List.forall_mem_append.2 ⟨hs, ht⟩

theorem skipSpace_gap_append {gap : Text} (h : IsGap gap) (t : Text) :
    skipSpace (gap ++ t) = skipSpace t := List.dropWhile_append_of_pos h

theorem skipSpace_of_not_isSpace {c : Char} (h : isSpace c = false) (t : Text) :
    skipSpace (c :: t) = c :: t := List.dropWhile_cons_of_neg (by simp [h])

/-- What is skipped is a gap. -/
theorem exists_gap (t : Text) : ∃ gap, IsGap gap ∧ t = gap ++ skipSpace t :=
  ⟨t.takeWhile isSpace, fun _ hc => List.mem_takeWhile_imp hc, List.takeWhile_append_dropWhile.symm⟩

/-! ## Names -/

theorem readName_append (v : Tree) (expected rest : Text) :
    readName v expected (expected ++ rest) = (v, rest) := by
  induction expected with
  | nil => rw [List.nil_append, readName.eq_def]
  | cons c expected ih => rw [List.cons_append, readName, if_pos rfl, ih]

/-- A name that is read is written in full. -/
theorem eq_append_of_readName {v v' : Tree} {expected t rest : Text}
    (h : readName v expected t = (v', rest)) (hv : v'.isBroken = false) :
    v' = v ∧ t = expected ++ rest := by
  induction expected generalizing t with
  | nil =>
    rw [readName.eq_def] at h
    cases h
    exact ⟨rfl, rfl⟩
  | cons e expected ih =>
    cases t with
    | nil => rw [readName] at h; cases h; cases hv
    | cons c t =>
      rw [readName] at h
      split at h
      · next hce =>
        obtain ⟨rfl, rfl⟩ := ih h
        exact ⟨rfl, by rw [hce, List.cons_append]⟩
      · cases h; cases hv

/-! ## Digits -/

/-- One or more decimal digits. -/
structure IsDigits (t : Text) : Prop where
  ne_nil : t ≠ []
  all : ∀ c ∈ t, c.isDigit = true

/-- No number goes on with this text. -/
def EndsNumber (rest : Text) : Prop :=
  ∀ c ∈ rest.head?, c.isDigit = false ∧ c ≠ '.' ∧ c ≠ 'e' ∧ c ≠ 'E'

theorem takeDigits_append {ds rest : Text} (hds : ∀ c ∈ ds, c.isDigit = true)
    (hrest : ∀ c ∈ rest.head?, c.isDigit = false) : takeDigits (ds ++ rest) = (ds, rest) := by
  rw [takeDigits, List.span_eq_takeWhile_dropWhile, List.takeWhile_append_of_pos hds,
    List.dropWhile_append_of_pos hds]
  cases rest with
  | nil => simp
  | cons c rest =>
    have hc : ¬ c.isDigit = true := by simp [hrest c rfl]
    rw [List.takeWhile_cons_of_neg hc, List.dropWhile_cons_of_neg hc, List.append_nil]

theorem eq_append_of_takeDigits {t ds rest : Text} (h : takeDigits t = (ds, rest)) :
    t = ds ++ rest ∧ ∀ c ∈ ds, c.isDigit = true := by
  rw [takeDigits, List.span_eq_takeWhile_dropWhile] at h
  cases h
  exact ⟨List.takeWhile_append_dropWhile.symm, fun _ hc => List.mem_takeWhile_imp hc⟩

/-! ## Numbers -/

/-- How an exponent is written, or none at all. -/
inductive ExponentSpelled : Option (Bool × Text) → Text → Prop where
  | none : ExponentSpelled none []
  | plain {e : Char} {ds : Text} (he : e = 'e' ∨ e = 'E') (hds : IsDigits ds) :
      ExponentSpelled (some (false, ds)) (e :: ds)
  | plus {e : Char} {ds : Text} (he : e = 'e' ∨ e = 'E') (hds : IsDigits ds) :
      ExponentSpelled (some (false, ds)) (e :: '+' :: ds)
  | minus {e : Char} {ds : Text} (he : e = 'e' ∨ e = 'E') (hds : IsDigits ds) :
      ExponentSpelled (some (true, ds)) (e :: '-' :: ds)

/-- How a fraction is written, or none at all. -/
inductive FractionSpelled : Option Text → Text → Prop where
  | none : FractionSpelled none []
  | point {ds : Text} (hds : IsDigits ds) : FractionSpelled (some ds) ('.' :: ds)

/-- How a number is written behind its minus sign, if it has one. -/
inductive Numeral.Spelled : Numeral → Text → Prop where
  | mk {n : Numeral} {fraction exponent : Text} (hwhole : IsDigits n.whole)
      (hzero : n.whole.head? = some '0' → n.whole = ['0'])
      (hfraction : FractionSpelled n.fraction fraction)
      (hexponent : ExponentSpelled n.exponent exponent) :
      Spelled n (n.whole ++ (fraction ++ exponent))

/-- The sign of an exponent, and what follows it. -/
def exponentSign : Text → Bool × Text
  | '+' :: t => (false, t)
  | '-' :: t => (true, t)
  | t => (false, t)

theorem readExponent_cons {n : Numeral} {e : Char} (he : e = 'e' ∨ e = 'E') (t : Text) :
    readExponent n (e :: t) =
      match takeDigits (exponentSign t).2 with
      | ([], rest) => (noDigit rest, rest)
      | (ds, rest) => (.number { n with exponent := some ((exponentSign t).1, ds) }, rest) := by
  rw [readExponent.eq_def]
  show (if e = 'e' ∨ e = 'E' then _ else _) = _
  rw [if_pos he]
  rfl

theorem readExponent_of_ne {n : Numeral} {e : Char} (he : ¬ (e = 'e' ∨ e = 'E')) (t : Text) :
    readExponent n (e :: t) = (.number n, e :: t) := by
  rw [readExponent.eq_def]
  show (if e = 'e' ∨ e = 'E' then _ else _) = _
  rw [if_neg he]

theorem exponentSign_digits {ds : Text} (hds : IsDigits ds) (rest : Text) :
    exponentSign (ds ++ rest) = (false, ds ++ rest) := by
  obtain ⟨d, ds, rfl⟩ := List.exists_cons_of_ne_nil hds.ne_nil
  have hd := hds.all d List.mem_cons_self
  rw [List.cons_append, exponentSign.eq_def]
  split
  · next h => cases (List.cons.inj h).1; cases hd
  · next h => cases (List.cons.inj h).1; cases hd
  · rfl

/-- Behind the letter of an exponent come its sign and its digits. -/
theorem exponentSpelled_of_sign {e : Char} (he : e = 'e' ∨ e = 'E') {t ds rest : Text}
    (hds : IsDigits ds) (h : (exponentSign t).2 = ds ++ rest) :
    ∃ s, ExponentSpelled (some ((exponentSign t).1, ds)) s ∧ e :: t = s ++ rest := by
  rw [exponentSign.eq_def] at h ⊢
  split at h
  · exact ⟨_, .plus he hds, congrArg (e :: '+' :: ·) h⟩
  · exact ⟨_, .minus he hds, congrArg (e :: '-' :: ·) h⟩
  · exact ⟨_, .plain he hds, congrArg (e :: ·) h⟩

theorem takeDigits_of_isDigits {ds rest : Text} (hds : IsDigits ds) (hrest : EndsNumber rest) :
    takeDigits (ds ++ rest) = (ds, rest) :=
  takeDigits_append hds.all fun c hc => (hrest c hc).1

theorem readExponent_of_sign {n : Numeral} {e : Char} (he : e = 'e' ∨ e = 'E') {t ds rest : Text}
    {negative : Bool} (hsign : exponentSign t = (negative, ds ++ rest)) (hds : IsDigits ds)
    (hrest : EndsNumber rest) :
    readExponent n (e :: t) = (.number { n with exponent := some (negative, ds) }, rest) := by
  rw [readExponent_cons he, hsign, takeDigits_of_isDigits hds hrest]
  obtain ⟨d, ds, rfl⟩ := List.exists_cons_of_ne_nil hds.ne_nil
  rfl

theorem ExponentSpelled.read {n : Numeral} {exponent : Option (Bool × Text)} {s rest : Text}
    (h : ExponentSpelled exponent s) (hn : n.exponent = .none) (hrest : EndsNumber rest) :
    readExponent n (s ++ rest) = (.number { n with exponent }, rest) := by
  cases h with
  | none =>
    rw [← hn]
    cases rest with
    | nil => rfl
    | cons c rest =>
      obtain ⟨-, -, he, hE⟩ := hrest c rfl
      exact readExponent_of_ne (not_or.2 ⟨he, hE⟩) rest
  | plain he hds => exact readExponent_of_sign he (exponentSign_digits hds rest) hds hrest
  | plus he hds => exact readExponent_of_sign he rfl hds hrest
  | minus he hds => exact readExponent_of_sign he rfl hds hrest

theorem spelled_of_readExponent {n : Numeral} {t rest : Text} {v : Tree} (hn : n.exponent = none)
    (h : readExponent n t = (v, rest)) (hv : v.isBroken = false) :
    ∃ exponent s, v = .number { n with exponent } ∧ ExponentSpelled exponent s ∧ t = s ++ rest := by
  have hself : n = { n with exponent := .none } := by rw [← hn]
  cases t with
  | nil =>
    rw [readExponent] at h
    cases h
    exact ⟨none, [], by rw [← hself], .none, rfl⟩
  | cons e t =>
    by_cases he : e = 'e' ∨ e = 'E'
    · rw [readExponent_cons he] at h
      split at h
      · cases h; cases hv
      · next ds rest' hne htake =>
        cases h
        obtain ⟨happend, hall⟩ := eq_append_of_takeDigits htake
        have hds : IsDigits ds := ⟨hne, hall⟩
        obtain ⟨s, hs, ht⟩ := exponentSpelled_of_sign he hds happend
        exact ⟨_, s, rfl, hs, ht⟩
    · rw [readExponent_of_ne he] at h
      cases h
      exact ⟨none, [], by rw [← hself], .none, rfl⟩

/-- Reads a number behind its whole part. -/
def readFraction (n : Numeral) : Text → Tree × Text
  | '.' :: t =>
    match takeDigits t with
    | ([], rest) => (noDigit rest, rest)
    | (ds, rest) => readExponent { n with fraction := some ds } rest
  | t => readExponent n t

theorem readNumber_eq (negative : Bool) (t : Text) :
    readNumber negative t =
      match takeDigits t with
      | ([], rest) => (noDigit rest, rest)
      | (whole, rest) =>
        if whole.length > 1 ∧ whole.head? = some '0' then (.missing .badNumber, rest)
        else readFraction ⟨negative, whole, none, none⟩ rest := rfl

/-- Neither a digit nor a point follows where an exponent or the end of a number may stand. -/
theorem ExponentSpelled.ends {exponent : Option (Bool × Text)} {s rest : Text}
    (h : ExponentSpelled exponent s) (hrest : EndsNumber rest) :
    ∀ c ∈ (s ++ rest).head?, c.isDigit = false ∧ c ≠ '.' := by
  have hletter : ∀ {e : Char}, e = 'e' ∨ e = 'E' → e.isDigit = false ∧ e ≠ '.' := by
    rintro e (rfl | rfl) <;> decide
  intro c hc
  cases h with
  | none => exact ⟨(hrest c hc).1, (hrest c hc).2.1⟩
  | plain he _ | plus he _ | minus he _ =>
    cases hc
    exact hletter he

theorem FractionSpelled.ends {fraction : Option Text} {exponent : Option (Bool × Text)}
    {s t rest : Text} (h : FractionSpelled fraction s) (ht : ExponentSpelled exponent t)
    (hrest : EndsNumber rest) : ∀ c ∈ (s ++ (t ++ rest)).head?, c.isDigit = false := by
  intro c hc
  cases h with
  | none => exact (ht.ends hrest c hc).1
  | point _ =>
    cases hc
    rfl

theorem FractionSpelled.read {n : Numeral} {fraction : Option Text}
    {exponent : Option (Bool × Text)} {s t rest : Text} (h : FractionSpelled fraction s)
    (ht : ExponentSpelled exponent t) (hfraction : n.fraction = .none) (hexponent : n.exponent = .none)
    (hrest : EndsNumber rest) :
    readFraction n (s ++ (t ++ rest)) = (.number { n with fraction, exponent }, rest) := by
  cases h with
  | none =>
    have hpoint : readFraction n (t ++ rest) = readExponent n (t ++ rest) := by
      rw [readFraction.eq_def]
      split
      · next heq => exact absurd rfl (ht.ends hrest '.' (by rw [heq]; rfl)).2
      · rfl
    rw [List.nil_append, hpoint, ht.read hexponent hrest, ← hfraction]
  | @point ds hds =>
    have hread : takeDigits (ds ++ (t ++ rest)) = (ds, t ++ rest) :=
      takeDigits_append hds.all fun c hc => (ht.ends hrest c hc).1
    obtain ⟨d, ds, rfl⟩ := List.exists_cons_of_ne_nil hds.ne_nil
    rw [List.cons_append, readFraction, hread]
    exact ht.read hexponent hrest

theorem spelled_of_readFraction {n : Numeral} {t rest : Text} {v : Tree} (hfraction : n.fraction = none)
    (hexponent : n.exponent = none) (h : readFraction n t = (v, rest)) (hv : v.isBroken = false) :
    ∃ fraction exponent s u, v = .number { n with fraction, exponent } ∧ FractionSpelled fraction s ∧
      ExponentSpelled exponent u ∧ t = s ++ (u ++ rest) := by
  rw [readFraction.eq_def] at h
  split at h
  · next t =>
    split at h
    · cases h; cases hv
    · next ds rest' hne htake =>
      obtain ⟨rfl, hall⟩ := eq_append_of_takeDigits htake
      obtain ⟨exponent, u, rfl, hu, rfl⟩ := spelled_of_readExponent (by exact hexponent) h hv
      exact ⟨_, exponent, _, u, rfl, .point ⟨hne, hall⟩, hu, rfl⟩
  · obtain ⟨exponent, u, rfl, hu, rfl⟩ := spelled_of_readExponent hexponent h hv
    exact ⟨none, exponent, [], u, by rw [← hfraction], .none, hu, rfl⟩

/-- **A number is read as it is spelled**, if it does not go on behind that. -/
theorem Numeral.Spelled.read {n : Numeral} {s rest : Text} (h : n.Spelled s)
    (hrest : EndsNumber rest) : readNumber n.negative (s ++ rest) = (.number n, rest) := by
  obtain ⟨hwhole, hzero, hfraction, hexponent⟩ := h
  next fraction exponent =>
  have htake : takeDigits (n.whole ++ (fraction ++ (exponent ++ rest))) =
      (n.whole, fraction ++ (exponent ++ rest)) :=
    takeDigits_append hwhole.all (hfraction.ends hexponent hrest)
  rw [List.append_assoc, List.append_assoc, readNumber_eq, htake]
  split
  · next hnil => exact absurd (Prod.ext_iff.1 hnil).1 hwhole.ne_nil
  · next heq =>
    cases heq
    have hlength : ¬ (n.whole.length > 1 ∧ n.whole.head? = some '0') := by
      rintro ⟨hlength, hhead⟩
      rw [hzero hhead] at hlength
      exact absurd hlength (by decide)
    rw [if_neg hlength]
    exact hfraction.read hexponent rfl rfl hrest

/-- **A number that is read is spelled** by the text in front of the rest. -/
theorem spelled_of_readNumber {negative : Bool} {t rest : Text} {v : Tree}
    (h : readNumber negative t = (v, rest)) (hv : v.isBroken = false) :
    ∃ n s, v = .number n ∧ n.negative = negative ∧ n.Spelled s ∧ t = s ++ rest := by
  rw [readNumber_eq] at h
  split at h
  · cases h; cases hv
  · next whole rest' hne htake =>
    obtain ⟨rfl, hall⟩ := eq_append_of_takeDigits htake
    split at h
    · cases h; cases hv
    · next hzero =>
      obtain ⟨fraction, exponent, s, u, rfl, hs, hu, rfl⟩ := spelled_of_readFraction rfl rfl h hv
      have halone : whole.head? = some '0' → whole = ['0'] := by
        intro hhead
        obtain ⟨ds, rfl⟩ := List.head?_eq_some_iff.1 hhead
        have hlength : ds.length = 0 := by
          rw [hhead, List.length_cons] at hzero
          simp only [and_true] at hzero
          omega
        rw [List.length_eq_zero_iff.1 hlength]
      exact ⟨_, _, rfl, rfl, .mk ⟨hne, hall⟩ halone hs hu, by simp⟩

/-! ## Strings -/

/-- How a piece of a string is written. -/
inductive StringPiece.Spelled : StringPiece → Text → Prop where
  | plain {c : Char} (hquote : c ≠ '"') (hslash : c ≠ '\\') (hcontrol : ¬ c < ' ') :
      Spelled (.char c) [c]
  | escape {e c : Char} (he : escaped? e = some c) : Spelled (.char c) ['\\', e]
  | codeUnit {a b c d : Char} {n : Nat} (hn : Text.hexValue? [a, b, c, d] = some n) :
      Spelled (.codeUnit n) ['\\', 'u', a, b, c, d]

/-- How the pieces of a string are written. -/
inductive PiecesSpelled : List StringPiece → Text → Prop where
  | nil : PiecesSpelled [] []
  | cons {p : StringPiece} {ps : List StringPiece} {s t : Text} (hp : p.Spelled s)
      (hps : PiecesSpelled ps t) : PiecesSpelled (p :: ps) (s ++ t)

/-- How a string is written between its quotes. -/
structure StringToken.Spelled (k : StringToken) (t : Text) : Prop where
  closed : k.ending = .closed
  pieces : PiecesSpelled k.pieces t

theorem StringToken.Spelled.cons {p : StringPiece} {k : StringToken} {s t : Text} (hp : p.Spelled s)
    (hk : k.Spelled t) : (k.cons p).Spelled (s ++ t) := ⟨hk.closed, .cons hp hk.pieces⟩

/-- A piece is read before what follows it. -/
theorem readString_of_spelled {p : StringPiece} {s : Text} (h : p.Spelled s) (t : Text) :
    readString (s ++ t) = ((readString t).1.cons p, (readString t).2) := by
  cases h with
  | plain hquote hslash hcontrol =>
    rw [List.singleton_append, readString, if_neg hcontrol]
    · exact hquote
    · exact fun _ _ _ _ _ hc => absurd hc hslash
    · exact fun _ hc => absurd hc hslash
    · exact fun _ _ hc => absurd hc hslash
    · exact fun hc => absurd hc hslash
  | @escape e c he =>
    have hu : e ≠ 'u' := by rintro rfl; cases he
    rw [List.cons_append, List.singleton_append, readString, he]
    · exact fun _ _ _ _ _ hc => absurd hc hu
    · exact hu
  | codeUnit hn =>
    simp only [List.cons_append, List.nil_append]
    rw [readString, hn]

/-- **A string is read as it is spelled**, up to its closing quote. -/
theorem StringToken.Spelled.read {k : StringToken} {s : Text} (h : k.Spelled s) (rest : Text) :
    readString (s ++ '"' :: rest) = (k, rest) := by
  obtain ⟨pieces, ending⟩ := k
  obtain ⟨rfl, hpieces⟩ := h
  replace hpieces : PiecesSpelled pieces s := hpieces
  induction hpieces with
  | nil => rw [List.nil_append, readString]
  | cons hp _ ih =>
    rw [List.append_assoc, readString_of_spelled hp, ih]
    rfl

/-- **A string that is read to its closing quote is spelled** by the text in front of that. -/
theorem spelled_of_readString {t rest : Text} {k : StringToken} (h : readString t = (k, rest))
    (hk : k.ending = .closed) : ∃ s, k.Spelled s ∧ t = s ++ '"' :: rest := by
  fun_induction readString t generalizing k rest with
  | case1 | case4 | case7 | case8 | case9 => cases h; cases hk
  | case2 => cases h; exact ⟨[], ⟨rfl, .nil⟩, rfl⟩
  | case3 a b c d t n hn k' rest' hread ih =>
    cases h
    obtain ⟨s, hs, rfl⟩ := ih hread hk
    exact ⟨_, hs.cons (.codeUnit hn), rfl⟩
  | case5 =>
    cases h
    split at hk <;> cases hk
  | case6 e t _ _ c he k' rest' hread ih =>
    cases h
    obtain ⟨s, hs, rfl⟩ := ih hread hk
    exact ⟨_, hs.cons (.escape he), rfl⟩
  | case10 c t hquote _ _ hslash hend hcontrol k' rest' hread ih =>
    -- a backslash would have been read as the start of an escape, or as the end of the text
    have hc : c ≠ '\\' := by
      intro hc
      cases t with
      | nil => exact hend hc rfl
      | cons e t => exact hslash e t hc rfl
    cases h
    obtain ⟨s, hs, rfl⟩ := ih hread hk
    exact ⟨_, hs.cons (.plain hquote hc hcontrol), rfl⟩

/-! ## Decimals and plain texts -/

/-- A number as it is written in decimal. -/
def Numeral.ofNat (n : Nat) : Numeral := ⟨false, Text.ofNat n, none, none⟩

/-- A decimal number starts with no zero, but for zero itself. -/
theorem head?_ofNat {n : Nat} (h : (Text.ofNat n).head? = some '0') : n = 0 := by
  induction n using Nat.strong_induction_on with
  | _ n ih =>
    by_cases hn : n < 10
    · rw [Text.ofNat, Nat.toDigits_of_lt_base hn] at h
      have hdigit : ∀ m < 10, m.digitChar = '0' → m = 0 := by decide
      exact hdigit n hn (Option.some.inj h)
    · -- the first digit is that of the number without its last digit
      have hne : Nat.toDigits 10 (n / 10) ≠ [] := Nat.toDigits_ne_nil
      obtain ⟨d, ds, hds⟩ := List.exists_cons_of_ne_nil hne
      rw [Text.ofNat, Nat.toDigits_of_base_le (by decide) (by omega), hds] at h
      have hquotient := ih (n / 10) (by omega) (by rw [Text.ofNat, hds]; exact h)
      omega

theorem isDigits_ofNat (n : Nat) : IsDigits (Text.ofNat n) :=
  ⟨Nat.toDigits_ne_nil, fun _ hc => Nat.isDigit_of_mem_toDigits (by decide) (by decide) hc⟩

theorem Numeral.spelled_ofNat (n : Nat) : (ofNat n).Spelled (Text.ofNat n) := by
  have hzero : (Text.ofNat n).head? = some '0' → Text.ofNat n = ['0'] := by
    intro h
    rw [head?_ofNat h]
    decide
  have hspelled : (ofNat n).Spelled (Text.ofNat n ++ ([] ++ [])) := .mk (isDigits_ofNat n) hzero .none .none
  simpa using hspelled

/-- Whether a character stands for itself in a string. -/
def isUnescaped (c : Char) : Bool := c != '"' && c != '\\' && decide (' '.toNat ≤ c.toNat)

/-- A text of such characters is written as it is. -/
theorem StringToken.spelled_ofText (t : Text) (h : t.all isUnescaped = true) :
    (ofText t).Spelled t := by
  refine ⟨rfl, ?_⟩
  induction t with
  | nil => exact .nil
  | cons c t ih =>
    rw [List.all_cons, Bool.and_eq_true] at h
    obtain ⟨hc, ht⟩ := h
    simp only [isUnescaped, Bool.and_eq_true, bne_iff_ne, decide_eq_true_eq] at hc
    obtain ⟨⟨hquote, hslash⟩, hspace⟩ := hc
    have hcontrol : ¬ c < ' ' := fun hlt =>
      absurd (UInt32.lt_iff_toNat_lt.1 hlt) (Nat.not_lt.2 hspace)
    exact .cons (.plain hquote hslash hcontrol) (ih ht)

end ListeningCharts.Json
