import ListeningCharts.Proofs.JsonRecords
import ListeningCharts.Response

/-! # Integers in a reply

    The service writes its integers as numbers or as texts. This module says which values are read as
    an integer within bounds, and as which one.

    * **Literals**: a number is taken for an integer if it has neither a fraction nor an exponent, is
      not `-0` and fits into 64 bits with or without a sign (`Numeral.IsWhole`).
    * **Texts**: blanks aside, digits with a sign in front, which may be a minus sign only where the
      bounds leave room for negative numbers (`Text.WritesInteger`).
    * **Reading**: these and no other values are read, each as the integer that it writes
      (`Reader.integerWithin_eq_ok_iff`).

    So it makes no difference in which form the service writes an integer, and one outside the bounds
    is refused in either form (`wire_integers`).
-/

namespace ListeningCharts

open Json

/-! ## Texts -/

namespace Text

variable {range : IntRange} {t before mid after : Text} {i j : Int}

/-- A text writes an integer in decimal. -/
inductive WritesInteger (range : IntRange) : Text → Int → Prop where
  | plain {ds : Text} (hds : IsDigits ds) : WritesInteger range ds (Nat.ofDigitChars 10 ds 0)
  | plus {ds : Text} (hds : IsDigits ds) :
      WritesInteger range ('+' :: ds) (Nat.ofDigitChars 10 ds 0)
  | minus {ds : Text} (hds : IsDigits ds) (hlow : range.low < 0) :
      WritesInteger range ('-' :: ds) (- Nat.ofDigitChars 10 ds 0)

theorem digits?_eq_some_iff {n : Nat} :
    digits? t = some n ↔ IsDigits t ∧ Nat.ofDigitChars 10 t 0 = n := by
  rw [digits?]
  by_cases h : (!t.isEmpty && t.all Char.isDigit) = true
  · rw [if_pos h, Option.some.injEq]
    rw [Bool.and_eq_true, Bool.not_eq_true', List.isEmpty_eq_false_iff, List.all_eq_true] at h
    exact ⟨fun hn => ⟨⟨h.1, h.2⟩, hn⟩, And.right⟩
  · rw [if_neg h]
    constructor
    · intro hn
      cases hn
    · rintro ⟨hds, -⟩
      refine absurd ?_ h
      rw [Bool.and_eq_true, Bool.not_eq_true', List.isEmpty_eq_false_iff, List.all_eq_true]
      exact ⟨hds.ne_nil, hds.all⟩

/-- The integer that a sign and digits write, whether within bounds or not. -/
def signedDigits? (range : IntRange) : Text → Option Int
  | '+' :: rest => (digits? rest).map Int.ofNat
  | '-' :: rest => if range.low < 0 then (digits? rest).map fun n => - Int.ofNat n else none
  | t => (digits? t).map Int.ofNat

theorem integer?_eq (range : IntRange) (t : Text) :
    integer? range t = (signedDigits? range t).bind range.check? := by
  rw [integer?.eq_def]
  split
  · rw [signedDigits?]
  · rw [signedDigits?]
  · next hplus hminus => rw [signedDigits?] <;> assumption

theorem signedDigits?_of_isDigits {c : Char} (h : IsDigits (c :: t)) :
    signedDigits? range (c :: t) = some (Nat.ofDigitChars 10 (c :: t) 0 : Int) := by
  have hc := h.all c List.mem_cons_self
  rw [signedDigits?.eq_def]
  split
  · next heq => cases heq; cases hc
  · next heq => cases heq; cases hc
  · rw [digits?_eq_some_iff.2 ⟨h, rfl⟩]
    rfl

theorem signedDigits?_eq_some_iff : signedDigits? range t = some i ↔ WritesInteger range t i := by
  constructor
  · intro h
    rw [signedDigits?.eq_def] at h
    split at h
    · obtain ⟨n, hn, rfl⟩ := Option.map_eq_some_iff.1 h
      obtain ⟨hds, rfl⟩ := digits?_eq_some_iff.1 hn
      exact .plus hds
    · split at h
      · next hlow =>
        obtain ⟨n, hn, rfl⟩ := Option.map_eq_some_iff.1 h
        obtain ⟨hds, rfl⟩ := digits?_eq_some_iff.1 hn
        exact .minus hds hlow
      · cases h
    · obtain ⟨n, hn, rfl⟩ := Option.map_eq_some_iff.1 h
      obtain ⟨hds, rfl⟩ := digits?_eq_some_iff.1 hn
      exact .plain hds
  · intro h
    cases h with
    | plain hds =>
      obtain ⟨c, ds, rfl⟩ := List.exists_cons_of_ne_nil hds.ne_nil
      exact signedDigits?_of_isDigits hds
    | plus hds =>
      rw [signedDigits?, digits?_eq_some_iff.2 ⟨hds, rfl⟩]
      rfl
    | minus hds hlow =>
      rw [signedDigits?, if_pos hlow, digits?_eq_some_iff.2 ⟨hds, rfl⟩]
      rfl

/-- A text writes at most one integer. -/
theorem WritesInteger.unique (h : WritesInteger range t i) (h' : WritesInteger range t j) : i = j :=
  Option.some.inj ((signedDigits?_eq_some_iff.2 h).symm.trans (signedDigits?_eq_some_iff.2 h'))

theorem integer?_eq_some_iff :
    integer? range t = some i ↔ WritesInteger range t i ∧ range.low ≤ i ∧ i ≤ range.high := by
  rw [integer?_eq, Option.bind_eq_some_iff]
  simp only [check?_eq_some_iff, signedDigits?_eq_some_iff]
  constructor
  · rintro ⟨_, hwrites, hcontains, rfl⟩
    exact ⟨hwrites, contains_iff.1 hcontains⟩
  · rintro ⟨hwrites, hrange⟩
    exact ⟨i, hwrites, contains_iff.2 hrange, rfl⟩

/-! ### Blanks and zeros around -/

/-- The blanks around a text without blanks are trimmed. -/
theorem trim_append (hbefore : before.allBlank = true) (hafter : after.allBlank = true)
    (hmid : ∀ c ∈ mid, isBlank c = false) : trim (before ++ (mid ++ after)) = mid := by
  have hblank : ∀ t : Text, t.allBlank = true → ∀ c ∈ t, isBlank c = true :=
    fun t h => List.all_eq_true.1 h
  have hkept : ∀ t rest : Text, (∀ c ∈ t, isBlank c = false) → rest.allBlank = true →
      (t ++ rest).dropWhile isBlank = if t = [] then [] else t ++ rest := by
    intro t rest ht hrest
    cases t with
    | nil =>
      rw [List.nil_append, if_pos rfl, List.dropWhile_eq_nil_iff]
      exact hblank rest hrest
    | cons c t =>
      have hc : ¬ isBlank c = true := by simp [ht c List.mem_cons_self]
      rw [List.cons_append, List.dropWhile_cons_of_neg hc, if_neg (by simp)]
  rw [trim, List.dropWhile_append_of_pos (hblank before hbefore), hkept mid after hmid hafter]
  cases mid with
  | nil => rfl
  | cons c mid =>
    have hafter' : ∀ c ∈ after.reverse, isBlank c = true :=
      fun c hc => hblank after hafter c (List.mem_reverse.1 hc)
    have hmid' : ∀ d ∈ (c :: mid).reverse, isBlank d = false :=
      fun d hd => hmid d (List.mem_reverse.1 hd)
    have hback := hkept (c :: mid).reverse [] hmid' rfl
    rw [List.append_nil, if_neg (by simp)] at hback
    rw [if_neg (by simp), List.reverse_append, List.dropWhile_append_of_pos hafter', hback,
      List.reverse_reverse]

theorem isBlank_of_isDigit {c : Char} (h : c.isDigit = true) : isBlank c = false := by
  have hall : ∀ n < 58, (Char.ofNat n).isDigit = true → isBlank (Char.ofNat n) = false := by decide
  have hbounds : 48 ≤ c.toNat ∧ c.toNat ≤ 57 := by
    simpa [Char.isDigit, UInt32.le_iff_toNat_le] using h
  have hc := hall c.toNat (by omega)
  rw [Char.ofNat_toNat] at hc
  exact hc h

/-- An integer in decimal, with zeros in front of its digits. -/
def zeroed (zeros : Nat) (i : Int) : Text :=
  (if i < 0 then ['-'] else []) ++ (List.replicate zeros '0' ++ ofNat i.natAbs)

theorem isDigits_zeros_append (zeros n : Nat) : IsDigits (List.replicate zeros '0' ++ ofNat n) := by
  have hds := isDigits_ofNat n
  refine ⟨by simp [hds.ne_nil], fun c hc => ?_⟩
  rcases List.mem_append.1 hc with hc | hc
  · obtain rfl := List.eq_of_mem_replicate hc
    rfl
  · exact hds.all c hc

theorem ofDigitChars_zeros_append (zeros n : Nat) :
    Nat.ofDigitChars 10 (List.replicate zeros '0' ++ ofNat n) 0 = n := by
  rw [Nat.ofDigitChars_append, Nat.ofDigitChars_replicate_zero, Nat.mul_zero]
  exact Nat.ofDigitChars_toDigits (by decide) (by decide)

theorem isBlank_of_mem_zeroed {zeros : Nat} {c : Char} (h : c ∈ zeroed zeros i) :
    isBlank c = false := by
  rcases List.mem_append.1 h with h | h
  · split at h
    · obtain rfl := List.mem_singleton.1 h
      decide
    · cases h
  · exact isBlank_of_isDigit ((isDigits_zeros_append zeros i.natAbs).all c h)

/-- A negative integer is written only where there are negative integers. -/
theorem writesInteger_zeroed_iff {zeros : Nat} :
    WritesInteger range (zeroed zeros i) j ↔ j = i ∧ (i < 0 → range.low < 0) := by
  have hds := isDigits_zeros_append zeros i.natAbs
  have hvalue := ofDigitChars_zeros_append zeros i.natAbs
  by_cases hi : i < 0
  · have htext : zeroed zeros i = '-' :: (List.replicate zeros '0' ++ ofNat i.natAbs) := by
      rw [zeroed, if_pos hi]
      rfl
    have hminus : range.low < 0 → WritesInteger range ('-' :: _) _ := fun hlow => .minus hds hlow
    rw [hvalue] at hminus
    have habs : - (i.natAbs : Int) = i := by omega
    rw [habs] at hminus
    rw [htext]
    constructor
    · intro h
      have hlow : range.low < 0 := by
        cases h with
        | plain hds => exact absurd (hds.all '-' List.mem_cons_self) (by decide)
        | minus _ hlow => exact hlow
      exact ⟨h.unique (hminus hlow), fun _ => hlow⟩
    · rintro ⟨rfl, hlow⟩
      exact hminus (hlow hi)
  · have htext : zeroed zeros i = List.replicate zeros '0' ++ ofNat i.natAbs := by
      rw [zeroed, if_neg hi]
      rfl
    have hplain : WritesInteger range _ _ := .plain hds
    rw [hvalue] at hplain
    have habs : (i.natAbs : Int) = i := by omega
    rw [habs] at hplain
    rw [htext]
    constructor
    · exact fun h => ⟨h.unique hplain, fun hneg => absurd hneg hi⟩
    · rintro ⟨rfl, -⟩
      exact hplain

end Text

/-! ## Values -/

namespace Json

variable {range : IntRange} {room : Nat} {v : Tree} {i j : Int}

/-- A value writes an integer within bounds, as a number or as a text. -/
inductive Tree.WritesInteger (range : IntRange) : Tree → Int → Prop where
  | literal {n : Numeral} {i : Int} (hn : n.IsWhole i) (hlow : range.low ≤ i)
      (hhigh : i ≤ range.high) : WritesInteger range (.number n) i
  | text {s : StringToken} {t : Text} {i : Int} (hs : s.text = .ok t)
      (ht : t.trim.WritesInteger range i) (hlow : range.low ≤ i) (hhigh : i ≤ range.high) :
      WritesInteger range (.string s) i

theorem Tree.WritesInteger.bounds (h : v.WritesInteger range i) : range.low ≤ i ∧ i ≤ range.high := by
  cases h with
  | literal _ hlow hhigh | text _ _ hlow hhigh => exact ⟨hlow, hhigh⟩

namespace Reader

/-- An integer literal. -/
def literal : Reader (Int ⊕ Text) := fun _ t =>
  match t with
  | .number n => match n.value? with
    | some (.integer i) => .ok (.inl i)
    | _ => mismatch .integer t
  | _ => mismatch .integer t

theorem literal_eq_ok_iff {read : Int ⊕ Text} :
    literal room v = .ok read ↔ ∃ n i, v = .number n ∧ n.IsWhole i ∧ read = .inl i := by
  constructor
  · intro h
    cases v with
    | number n =>
      rw [literal] at h
      split at h
      · next i hvalue =>
        cases h
        exact ⟨n, i, rfl, Numeral.value?_eq_integer_iff_isWhole.1 hvalue, rfl⟩
      · exact absurd h mismatch_ne_ok
    | _ => simp only [literal, mismatch_ne_ok] at h
  · rintro ⟨n, i, rfl, hn, rfl⟩
    rw [literal, Numeral.value?_eq_integer_iff_isWhole.2 hn]

theorem integerOrText_eq : integerOrText = firstOf "Raw" [literal, map .inr text] := rfl

/-- An integer literal or a text is read as what it is, and nothing else is. -/
theorem integerOrText_eq_ok_iff {read : Int ⊕ Text} :
    integerOrText room v = .ok read ↔
      (∃ n i, v = .number n ∧ n.IsWhole i ∧ read = .inl i) ∨ ∃ t, v.IsText t ∧ read = .inr t := by
  rw [integerOrText_eq, firstOf_eq_ok_iff, literal_eq_ok_iff, map, map_eq_ok_iff]
  simp only [text_eq_ok_iff]
  constructor
  · rintro ⟨-, h | ⟨-, t, ht, rfl⟩⟩
    · exact .inl h
    · exact .inr ⟨t, ht, rfl⟩
  · rintro (⟨n, i, rfl, hn, rfl⟩ | ⟨t, ⟨s, rfl, hs⟩, rfl⟩)
    · refine ⟨?_, .inl ⟨n, i, rfl, hn, rfl⟩⟩
      rw [checkWhole, Numeral.value?_eq_integer_iff_isWhole.2 hn]
      rfl
    · refine ⟨?_, .inr ⟨fun b h => ?_, t, ⟨s, rfl, hs⟩, rfl⟩⟩
      · rw [checkWhole, hs]
        rfl
      · obtain ⟨_, _, h, -⟩ := literal_eq_ok_iff.1 h
        cases h

/-- **The values that are read as an integer within bounds**, and as which one. -/
theorem integerWithin_eq_ok_iff :
    integerWithin range room v = .ok i ↔ v.WritesInteger range i := by
  rw [integerWithin, bind_eq_ok_iff]
  simp only [integerOrText_eq_ok_iff]
  constructor
  · rintro ⟨read, ⟨n, j, rfl, hn, rfl⟩ | ⟨t, ⟨s, rfl, hs⟩, rfl⟩, h⟩
    · simp only at h
      split at h
      · next hcontains =>
        cases h
        obtain ⟨hlow, hhigh⟩ := contains_iff.1 hcontains
        exact .literal hn hlow hhigh
      · cases h
    · simp only at h
      split at h
      · next hinteger =>
        cases h
        obtain ⟨ht, hlow, hhigh⟩ := Text.integer?_eq_some_iff.1 hinteger
        exact .text hs ht hlow hhigh
      · cases h
  · intro h
    cases h with
    | literal hn hlow hhigh =>
      exact ⟨.inl i, .inl ⟨_, i, rfl, hn, rfl⟩, if_pos (contains_iff.2 ⟨hlow, hhigh⟩)⟩
    | @text s t _ hs ht hlow hhigh =>
      refine ⟨.inr t, .inr ⟨t, ⟨s, rfl, hs⟩, rfl⟩, ?_⟩
      simp only [Text.integer?_eq_some_iff.2 ⟨ht, hlow, hhigh⟩]

end Reader

/-! ## Both forms of an integer -/

/-- An integer as a literal. -/
def Numeral.ofInt (i : Int) : Numeral := ⟨decide (i < 0), Text.ofNat i.natAbs, none, none⟩

theorem Numeral.signed_ofInt (i : Int) : (ofInt i).signed = i := by
  have hvalue : Nat.ofDigitChars 10 (Text.ofNat i.natAbs) 0 = i.natAbs :=
    Nat.ofDigitChars_toDigits (by decide) (by decide)
  simp only [signed, ofInt, hvalue, decide_eq_true_eq]
  split <;> omega

/-- A value writes an integer in decimal: as a literal, or as a text with any blanks around it and any
    zeros in front of its digits. -/
inductive Tree.Encodes : Tree → Int → Prop where
  | literal (i : Int) : Encodes (.number (.ofInt i)) i
  | text {s : StringToken} {before after : Text} {zeros : Nat} {i : Int}
      (hbefore : before.allBlank = true) (hafter : after.allBlank = true)
      (hs : s.text = .ok (before ++ (Text.zeroed zeros i ++ after))) : Encodes (.string s) i

/-- **In either form an integer is read as itself**, if it is within bounds that 64 bits hold, and is
    refused if it is not. -/
theorem Tree.Encodes.writesInteger_iff (h : v.Encodes i)
    (hlow : -9223372036854775808 ≤ range.low) (hhigh : range.high ≤ 18446744073709551615) :
    v.WritesInteger range j ↔ j = i ∧ range.low ≤ i ∧ i ≤ range.high := by
  cases h with
  | literal i =>
    constructor
    · rintro (⟨hn, hlow', hhigh'⟩ | _)
      obtain rfl : i = j := by rw [← hn.signed, Numeral.signed_ofInt]
      exact ⟨rfl, hlow', hhigh'⟩
    · rintro ⟨rfl, hlow', hhigh'⟩
      refine .literal ⟨rfl, rfl, Numeral.signed_ofInt j, fun hneg => ?_, by omega, by omega⟩ hlow' hhigh'
      have hneg' : j < 0 := of_decide_eq_true hneg
      omega
  | @text s before after zeros _ hbefore hafter hs =>
    have htrim : (before ++ (Text.zeroed zeros i ++ after)).trim = Text.zeroed zeros i :=
      Text.trim_append hbefore hafter fun c hc => Text.isBlank_of_mem_zeroed hc
    constructor
    · intro h
      cases h with
      | text hs' ht hlow' hhigh' =>
        cases hs.symm.trans hs'
        rw [htrim] at ht
        obtain ⟨rfl, -⟩ := Text.writesInteger_zeroed_iff.1 ht
        exact ⟨rfl, hlow', hhigh'⟩
    · rintro ⟨rfl, hlow', hhigh'⟩
      refine .text hs ?_ hlow' hhigh'
      rw [htrim]
      exact Text.writesInteger_zeroed_iff.2 ⟨rfl, fun hneg => by omega⟩

end Json

namespace Response

variable {room : Nat} {v : Tree}

theorem count_eq_ok_iff {n : Nat} : count room v = .ok n ↔ v.WritesInteger .unsigned64 n := by
  rw [count, Reader.map, map_eq_ok_iff]
  simp only [Reader.integerWithin_eq_ok_iff]
  constructor
  · rintro ⟨i, h, rfl⟩
    have hlow : 0 ≤ i := h.bounds.1
    rw [Int.toNat_of_nonneg hlow]
    exact h
  · exact fun h => ⟨n, h, Int.toNat_natCast n⟩

theorem seconds_eq_ok_iff {i : Int} : seconds room v = .ok i ↔ v.WritesInteger .signed64 i :=
  Reader.integerWithin_eq_ok_iff

end Response

/-- **The service's integers are exact or refused**, for counts without a sign and times with one, and
    for every value.

    * A value is read as an integer if and only if it is a literal of 64 bits, or a text that holds
      digits with a sign in front of them, blanks aside, and the integer is within bounds.
    * As a literal and as a text, with any blanks around it and any zeros in front, an integer within
      bounds is read as itself, and one outside them is refused. -/
theorem wire_integers (room : Nat) (v : Json.Tree) :
    (∀ n : Nat, Response.count room v = .ok n ↔ v.WritesInteger .unsigned64 n) ∧
    (∀ i : Int, Response.seconds room v = .ok i ↔ v.WritesInteger .signed64 i) ∧
    (∀ i, v.Encodes i →
      (∀ n : Nat, Response.count room v = .ok n ↔
        (n : Int) = i ∧ 0 ≤ i ∧ i ≤ 18446744073709551615) ∧
      (∀ j : Int, Response.seconds room v = .ok j ↔
        j = i ∧ -9223372036854775808 ≤ i ∧ i ≤ 9223372036854775807)) := by
  refine ⟨fun n => Response.count_eq_ok_iff, fun i => Response.seconds_eq_ok_iff, fun i h => ⟨?_, ?_⟩⟩
  · intro n
    rw [Response.count_eq_ok_iff]
    exact h.writesInteger_iff (by decide) (by decide)
  · intro j
    rw [Response.seconds_eq_ok_iff]
    exact h.writesInteger_iff (by decide) (by decide)

/-- The greatest count, in an ideographic space and behind a zero; one more than it, as a literal; the
    least time, as a literal. -/
theorem wire_integers_bounds :
    let greatest : Json.Tree := .string (.ofText "\u3000018446744073709551615 ")
    let beyond : Json.Tree := .number (.ofInt 18446744073709551616)
    let least : Json.Tree := .number (.ofInt (-9223372036854775808))
    Response.count 0 greatest = .ok 18446744073709551615 ∧
    (∀ n, Response.count 0 beyond ≠ .ok n) ∧
    Response.seconds 0 least = .ok (-9223372036854775808) ∧
    (∀ n, Response.count 0 least ≠ .ok n) := by
  intro greatest beyond least
  have hgreatest : greatest.Encodes 18446744073709551615 :=
    @Json.Tree.Encodes.text _ "\u3000" " " 1 _ (by decide) (by decide)
      (by rw [Json.StringToken.text_ofText]; decide)
  have hbeyond : beyond.Encodes 18446744073709551616 := .literal _
  have hleast : least.Encodes (-9223372036854775808) := .literal _
  obtain ⟨hcount, -⟩ := (wire_integers 0 greatest).2.2 _ hgreatest
  obtain ⟨hrefused, -⟩ := (wire_integers 0 beyond).2.2 _ hbeyond
  obtain ⟨hnegative, hseconds⟩ := (wire_integers 0 least).2.2 _ hleast
  refine ⟨(hcount _).2 (by decide), fun n h => ?_, (hseconds _).2 (by decide), fun n h => ?_⟩
  · exact absurd ((hrefused n).1 h).2.2 (by decide)
  · exact absurd ((hnegative n).1 h).2.1 (by decide)

end ListeningCharts
