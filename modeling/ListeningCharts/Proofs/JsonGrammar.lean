import ListeningCharts.Proofs.JsonTokens

/-! # JSON grammar

    How the values of a JSON text are written, and that reading a text is the inverse of that.

    * **Grammar**: a value is written as a name, a number, a string, a list or an object, with gaps
      between its tokens (`Tree.Spelled`). Only whole trees are spelled, with no break inside.
    * **Complete**: what is spelled is read, and the calls that are granted are enough
      (`Tree.Spelled.read`).
    * **Sound**: a whole tree that is read is spelled by the text in front of the rest
      (`spelled_of_readValue`).
    * So a text holds one value and nothing else exactly if it spells it, with gaps around it
      (`readTree_eq_iff`).
-/

namespace ListeningCharts.Json

/-! ## Grammar -/

mutual

/-- How a value is written. -/
inductive Tree.Spelled : Tree → Text → Prop where
  | nullName : Tree.Spelled .null ['n', 'u', 'l', 'l']
  | trueName : Tree.Spelled (.boolean true) ['t', 'r', 'u', 'e']
  | falseName : Tree.Spelled (.boolean false) ['f', 'a', 'l', 's', 'e']
  | number {n : Numeral} {s : Text} (hn : n.Spelled s) (hsign : n.negative = false) :
      Tree.Spelled (.number n) s
  | negative {n : Numeral} {s : Text} (hn : n.Spelled s) (hsign : n.negative = true) :
      Tree.Spelled (.number n) ('-' :: s)
  | string {k : StringToken} {s : Text} (hk : k.Spelled s) :
      Tree.Spelled (.string k) ('"' :: (s ++ ['"']))
  | emptyList {gap : Text} (hgap : IsGap gap) :
      Tree.Spelled (.list [] .closed) ('[' :: (gap ++ [']']))
  | list {items : List Tree} {gap s : Text} (hgap : IsGap gap) (hitems : ItemsSpelled items s) :
      Tree.Spelled (.list items .closed) ('[' :: (gap ++ (s ++ [']'])))
  | emptyObject {gap : Text} (hgap : IsGap gap) :
      Tree.Spelled (.object [] .closed) ('\x7b' :: (gap ++ ['\x7d']))
  | object {members : List (StringToken × Tree)} {gap s : Text} (hgap : IsGap gap)
      (hmembers : MembersSpelled members s) :
      Tree.Spelled (.object members .closed) ('\x7b' :: (gap ++ (s ++ ['\x7d'])))

/-- How the elements of a list are written, with the gap behind the last one. -/
inductive ItemsSpelled : List Tree → Text → Prop where
  | last {v : Tree} {s gap : Text} (hv : v.Spelled s) (hgap : IsGap gap) : ItemsSpelled [v] (s ++ gap)
  | more {v : Tree} {items : List Tree} {s before after t : Text} (hv : v.Spelled s)
      (hbefore : IsGap before) (hafter : IsGap after) (hitems : ItemsSpelled items t) :
      ItemsSpelled (v :: items) (s ++ (before ++ ',' :: (after ++ t)))

/-- How the members of an object are written, with the gap behind the last one. -/
inductive MembersSpelled : List (StringToken × Tree) → Text → Prop where
  | last {k : StringToken} {v : Tree} {key before after s gap : Text} (hk : k.Spelled key)
      (hbefore : IsGap before) (hafter : IsGap after) (hv : v.Spelled s) (hgap : IsGap gap) :
      MembersSpelled [(k, v)] ('"' :: (key ++ '"' :: (before ++ ':' :: (after ++ (s ++ gap)))))
  | more {k : StringToken} {v : Tree} {members : List (StringToken × Tree)}
      {key before after s gap gap' t : Text} (hk : k.Spelled key) (hbefore : IsGap before)
      (hafter : IsGap after) (hv : v.Spelled s) (hgap : IsGap gap) (hgap' : IsGap gap')
      (hmembers : MembersSpelled members t) :
      MembersSpelled ((k, v) :: members)
        ('"' :: (key ++ '"' :: (before ++ ':' :: (after ++ (s ++ (gap ++ ',' :: (gap' ++ t)))))))

end

/-! ## Lists without gaps -/

/-- The elements of a list with nothing but commas between them. -/
theorem itemsSpelled_intercalate {α : Type} {v : α → Tree} {s : α → Text}
    (h : ∀ a, (v a).Spelled (s a)) (a : α) (as : List α) :
    ItemsSpelled ((a :: as).map v) ([','].intercalate ((a :: as).map s)) := by
  induction as generalizing a with
  | nil => simpa using ItemsSpelled.last (h a) isGap_nil
  | cons b as ih =>
    have hmore := ItemsSpelled.more (h a) isGap_nil isGap_nil (ih b)
    simpa [List.intercalate_cons_cons] using hmore

/-- A list with nothing but commas between its elements. -/
theorem Tree.spelled_list {α : Type} {v : α → Tree} {s : α → Text} (h : ∀ a, (v a).Spelled (s a))
    (as : List α) :
    (Tree.list (as.map v) .closed).Spelled ('[' :: ([','].intercalate (as.map s) ++ [']'])) := by
  cases as with
  | nil => exact .emptyList isGap_nil
  | cons a as => exact .list isGap_nil (itemsSpelled_intercalate h a as)

/-! ## How texts start -/

/-- A digit is no gap, and starts no other value. -/
theorem Numeral.Spelled.exists_digit {n : Numeral} {s : Text} (h : n.Spelled s) :
    ∃ d t, s = d :: t ∧ d.isDigit = true := by
  obtain ⟨hwhole, -, -, -⟩ := h
  obtain ⟨d, ds, hds⟩ := List.exists_cons_of_ne_nil hwhole.ne_nil
  exact ⟨d, _, by rw [hds, List.cons_append], hwhole.all d (by simp [hds])⟩

theorem isSpace_of_isDigit {d : Char} (h : d.isDigit = true) : isSpace d = false := by
  cases hspace : isSpace d with
  | false => rfl
  | true =>
    simp only [isSpace, Bool.or_eq_true, beq_iff_eq] at hspace
    rcases hspace with ((rfl | rfl) | rfl) | rfl <;> cases h

/-- A value starts with a character that is no gap and closes no list. -/
theorem Tree.Spelled.exists_cons {v : Tree} {s : Text} (h : v.Spelled s) :
    ∃ c t, s = c :: t ∧ isSpace c = false ∧ c ≠ ']' := by
  cases h with
  | number hn _ =>
    obtain ⟨d, t, rfl, hd⟩ := hn.exists_digit
    exact ⟨d, t, rfl, isSpace_of_isDigit hd, by rintro rfl; cases hd⟩
  | _ => exact ⟨_, _, rfl, by decide, by decide⟩

theorem ItemsSpelled.exists_cons {items : List Tree} {s : Text} (h : ItemsSpelled items s) :
    ∃ c t, s = c :: t ∧ isSpace c = false ∧ c ≠ ']' := by
  cases h with
  | last hv _ | more hv _ _ _ =>
    obtain ⟨c, t, rfl, hc⟩ := hv.exists_cons
    exact ⟨c, _, rfl, hc⟩

theorem MembersSpelled.exists_quote {members : List (StringToken × Tree)} {s : Text}
    (h : MembersSpelled members s) : ∃ t, s = '"' :: t := by
  cases h <;> exact ⟨_, rfl⟩

theorem endsNumber_of_isSpace {c : Char} (h : isSpace c = true) (t : Text) : EndsNumber (c :: t) := by
  intro d hd
  cases hd
  simp only [isSpace, Bool.or_eq_true, beq_iff_eq] at h
  rcases h with ((rfl | rfl) | rfl) | rfl <;> decide

/-- Numbers end at a gap, be it empty, with which the text ends. -/
theorem IsGap.endsNumber {gap : Text} (hgap : IsGap gap) : EndsNumber gap := by
  cases gap with
  | nil => rintro c ⟨⟩
  | cons c gap => exact endsNumber_of_isSpace (hgap c List.mem_cons_self) gap

/-- Numbers end where a gap and a separator or a bracket follow. -/
theorem endsNumber_of_gap {gap : Text} (hgap : IsGap gap) {c : Char}
    (hc : c.isDigit = false ∧ c ≠ '.' ∧ c ≠ 'e' ∧ c ≠ 'E') (t : Text) : EndsNumber (gap ++ c :: t) := by
  cases gap with
  | nil => rintro d ⟨⟩; exact hc
  | cons d gap => exact endsNumber_of_isSpace (hgap d List.mem_cons_self) (gap ++ c :: t)

/-! ## What is spelled is read -/

theorem readValue_gap {gap : Text} (h : IsGap gap) (calls : Nat) (t : Text) :
    readValue (calls + 1) (gap ++ t) = readValue (calls + 1) t := by
  rw [readValue, readValue, skipSpace_gap_append h]

theorem readValue_digit {d : Char} (hd : d.isDigit = true) (calls : Nat) (t : Text) :
    readValue (calls + 1) (d :: t) = readNumber false (d :: t) := by
  rw [readValue, skipSpace_of_not_isSpace (isSpace_of_isDigit hd)]
  split
  case h_9 heq =>
    cases heq
    rw [if_pos hd]
  case h_1 heq => cases heq
  all_goals
    next heq =>
      cases heq
      cases hd

/-- A list that is not closed at once holds what is read after the gap. -/
theorem readValue_list {gap : Text} (hgap : IsGap gap) {c : Char} (hspace : isSpace c = false)
    (hc : c ≠ ']') (calls : Nat) (t : Text) :
    readValue (calls + 1) ('[' :: (gap ++ c :: t)) =
      (.list (readItems calls (c :: t)).1 (readItems calls (c :: t)).2.1,
        (readItems calls (c :: t)).2.2) := by
  rw [readValue, skipSpace_of_not_isSpace (by decide)]
  simp only [skipSpace_gap_append hgap, skipSpace_of_not_isSpace hspace]
  split
  · next heq => cases heq
  · next heq => cases heq; exact absurd rfl hc
  · rfl

theorem readValue_object {gap : Text} (hgap : IsGap gap) (calls : Nat) (t : Text) :
    readValue (calls + 1) ('\x7b' :: (gap ++ '"' :: t)) =
      (.object (readMembers calls t).1 (readMembers calls t).2.1, (readMembers calls t).2.2) := by
  rw [readValue, skipSpace_of_not_isSpace (by decide)]
  simp only [skipSpace_gap_append hgap, skipSpace_of_not_isSpace (c := '"') (by decide)]

/-! Only a value that is whole goes on to what follows. -/

/-- A whole value is not broken. -/
theorem Tree.Spelled.isBroken {v : Tree} {s : Text} (h : v.Spelled s) : v.isBroken = false := by
  cases h with
  | string hk => rw [Tree.isBroken, hk.closed]; rfl
  | _ => rfl

theorem readItems_last {calls : Nat} {v : Tree} {t gap rest : Text} (hv : v.isBroken = false)
    (hread : readValue calls t = (v, gap ++ ']' :: rest)) (hgap : IsGap gap) :
    readItems (calls + 1) t = ([v], .closed, rest) := by
  rw [readItems, hread]
  simp only [hv, Bool.false_eq_true, if_false, skipSpace_gap_append hgap,
    skipSpace_of_not_isSpace (c := ']') (by decide)]

theorem readItems_more {calls : Nat} {v : Tree} {t before after rest : Text} {c : Char}
    (hv : v.isBroken = false) (hread : readValue calls t = (v, before ++ ',' :: (after ++ c :: rest)))
    (hbefore : IsGap before) (hafter : IsGap after) (hspace : isSpace c = false) (hc : c ≠ ']') :
    readItems (calls + 1) t =
      (v :: (readItems calls (c :: rest)).1, (readItems calls (c :: rest)).2) := by
  rw [readItems, hread]
  simp only [hv, Bool.false_eq_true, if_false, skipSpace_gap_append hbefore,
    skipSpace_of_not_isSpace (c := ',') (by decide), skipSpace_gap_append hafter,
    skipSpace_of_not_isSpace hspace]
  split
  · next heq => cases heq; exact absurd rfl hc
  · rfl

theorem readMembers_last {calls : Nat} {k : StringToken} {v : Tree} {key before t gap rest : Text}
    (hk : k.Spelled key) (hbefore : IsGap before) (hv : v.isBroken = false)
    (hread : readValue calls t = (v, gap ++ '\x7d' :: rest)) (hgap : IsGap gap) :
    readMembers (calls + 1) (key ++ '"' :: (before ++ ':' :: t)) = ([(k, v)], .closed, rest) := by
  rw [readMembers, hk.read]
  simp only [hk.closed, ne_eq, not_true_eq_false, if_false, skipSpace_gap_append hbefore,
    skipSpace_of_not_isSpace (c := ':') (by decide), hread, hv, Bool.false_eq_true,
    skipSpace_gap_append hgap, skipSpace_of_not_isSpace (c := '\x7d') (by decide)]

theorem readMembers_more {calls : Nat} {k : StringToken} {v : Tree}
    {key before t gap gap' rest : Text} (hk : k.Spelled key) (hbefore : IsGap before)
    (hv : v.isBroken = false) (hread : readValue calls t = (v, gap ++ ',' :: (gap' ++ '"' :: rest)))
    (hgap : IsGap gap) (hgap' : IsGap gap') :
    readMembers (calls + 1) (key ++ '"' :: (before ++ ':' :: t)) =
      ((k, v) :: (readMembers calls rest).1, (readMembers calls rest).2) := by
  rw [readMembers, hk.read]
  simp only [hk.closed, ne_eq, not_true_eq_false, if_false, skipSpace_gap_append hbefore,
    skipSpace_of_not_isSpace (c := ':') (by decide), hread, hv, Bool.false_eq_true,
    skipSpace_gap_append hgap, skipSpace_of_not_isSpace (c := ',') (by decide),
    skipSpace_gap_append hgap', skipSpace_of_not_isSpace (c := '"') (by decide)]

mutual

/-- **A value is read as it is spelled**, behind a gap, if no number goes on behind it. Every
    character grants two calls. -/
theorem Tree.Spelled.read {v : Tree} {s : Text} (h : v.Spelled s) (calls : Nat) {gap : Text}
    (rest : Text) (hcalls : 2 * s.length ≤ calls) (hgap : IsGap gap) (hrest : EndsNumber rest) :
    readValue calls (gap ++ (s ++ rest)) = (v, rest) := by
  obtain ⟨calls, rfl⟩ : ∃ n, calls = n + 1 := by
    obtain ⟨c, t, rfl, -⟩ := h.exists_cons
    exact ⟨calls - 1, by simp at hcalls; omega⟩
  rw [readValue_gap hgap]
  match h with
  | .nullName => exact readName_append .null ['u', 'l', 'l'] rest
  | .trueName => exact readName_append (.boolean true) ['r', 'u', 'e'] rest
  | .falseName => exact readName_append (.boolean false) ['a', 'l', 's', 'e'] rest
  | .number hn hsign =>
    obtain ⟨d, t, rfl, hd⟩ := hn.exists_digit
    rw [List.cons_append, readValue_digit hd, ← List.cons_append, ← hsign]
    exact hn.read hrest
  | .negative hn hsign =>
    show readNumber true _ = _
    rw [← hsign]
    exact hn.read hrest
  | .string hk =>
    rw [readValue, List.cons_append, skipSpace_of_not_isSpace (by decide), List.append_assoc]
    simp only [List.singleton_append, hk.read rest]
  | .emptyList hgap' =>
    rw [readValue, List.cons_append, skipSpace_of_not_isSpace (by decide), List.append_assoc]
    simp only [List.singleton_append, skipSpace_gap_append hgap',
      skipSpace_of_not_isSpace (c := ']') (by decide)]
  | .list hgap' hitems =>
    have hread := hitems.read calls rest (by simp at hcalls; omega)
    obtain ⟨c, t, rfl, hspace, hc⟩ := hitems.exists_cons
    simp only [List.cons_append, List.append_assoc, List.nil_append] at hread ⊢
    rw [readValue_list hgap' hspace hc, hread]
  | .emptyObject hgap' =>
    rw [readValue, List.cons_append, skipSpace_of_not_isSpace (by decide), List.append_assoc]
    simp only [List.singleton_append, skipSpace_gap_append hgap',
      skipSpace_of_not_isSpace (c := '\x7d') (by decide)]
  | .object hgap' hmembers =>
    have hread := hmembers.read calls rest (by simp at hcalls; omega)
    obtain ⟨t, rfl⟩ := hmembers.exists_quote
    simp only [List.cons_append, List.append_assoc, List.nil_append, List.tail_cons] at hread ⊢
    rw [readValue_object hgap', hread]

/-- The elements of a list are read as they are spelled, up to the bracket. -/
theorem ItemsSpelled.read {items : List Tree} {s : Text} (h : ItemsSpelled items s) (calls : Nat)
    (rest : Text) (hcalls : 2 * s.length + 1 ≤ calls) :
    readItems calls (s ++ ']' :: rest) = (items, .closed, rest) := by
  obtain ⟨calls, rfl⟩ : ∃ n, calls = n + 1 := ⟨calls - 1, by omega⟩
  match h with
  | .last hv hgap =>
    have hread := hv.read calls _ (by simp at hcalls; omega) isGap_nil
      (endsNumber_of_gap hgap (c := ']') (by decide) rest)
    rw [List.append_assoc]
    exact readItems_last hv.isBroken hread hgap
  | .more hv hbefore hafter hitems =>
    have hmore := hitems.read calls rest (by simp at hcalls; omega)
    obtain ⟨c, t, rfl, hspace, hc⟩ := hitems.exists_cons
    have hread := fun t => hv.read calls _ (by simp at hcalls; omega) isGap_nil
      (endsNumber_of_gap hbefore (c := ',') (by decide) t)
    simp only [List.cons_append, List.append_assoc] at hmore ⊢
    refine (readItems_more hv.isBroken (hread _) hbefore hafter hspace hc).trans ?_
    rw [hmore]

/-- The members of an object are read as they are spelled, from behind the first quote to the
    bracket. -/
theorem MembersSpelled.read {members : List (StringToken × Tree)} {s : Text}
    (h : MembersSpelled members s) (calls : Nat) (rest : Text) (hcalls : 2 * s.length ≤ calls) :
    readMembers calls (s.tail ++ '\x7d' :: rest) = (members, .closed, rest) := by
  obtain ⟨calls, rfl⟩ : ∃ n, calls = n + 1 := by
    obtain ⟨t, rfl⟩ := h.exists_quote
    exact ⟨calls - 1, by simp at hcalls; omega⟩
  match h with
  | .last hk hbefore hafter hv hgap =>
    have hread := hv.read calls _ (by simp at hcalls; omega) hafter
      (endsNumber_of_gap hgap (c := '\x7d') (by decide) rest)
    simp only [List.cons_append, List.append_assoc, List.tail_cons]
    exact readMembers_last hk hbefore hv.isBroken hread hgap
  | .more hk hbefore hafter hv hgap hgap' hmembers =>
    have hmore := hmembers.read calls rest (by simp at hcalls; omega)
    obtain ⟨t, rfl⟩ := hmembers.exists_quote
    have hread := fun t => hv.read calls _ (by simp at hcalls; omega) hafter
      (endsNumber_of_gap hgap (c := ',') (by decide) t)
    simp only [List.cons_append, List.append_assoc, List.tail_cons] at hmore ⊢
    rw [readMembers_more hk hbefore hv.isBroken (hread _) hgap hgap', hmore]

end

/-! ## What is read is spelled -/

theorem skipSpace_eq_cons {t u : Text} {c : Char} (h : skipSpace t = c :: u) :
    ∃ gap, IsGap gap ∧ t = gap ++ c :: u := by
  obtain ⟨gap, hgap, ht⟩ := exists_gap t
  exact ⟨gap, hgap, h ▸ ht⟩

/-- What a whole list was read from: nothing, or elements up to a bracket. -/
theorem readValue_list_eq {calls : Nat} {u rest : Text} {v : Tree}
    (h : readValue (calls + 1) ('[' :: u) = (v, rest)) (hv : v.isBroken = false) :
    (∃ gap, IsGap gap ∧ u = gap ++ ']' :: rest ∧ v = .list [] .closed) ∨
      ∃ gap more items, IsGap gap ∧ u = gap ++ more ∧
        readItems calls more = (items, .closed, rest) ∧ v = .list items .closed := by
  rw [readValue, skipSpace_of_not_isSpace (by decide)] at h
  simp only at h
  split at h
  · cases h; cases hv
  · next hu =>
    obtain ⟨gap, hgap, rfl⟩ := skipSpace_eq_cons hu
    cases h
    exact .inl ⟨gap, hgap, rfl, rfl⟩
  · obtain ⟨gap, hgap, hu⟩ := exists_gap u
    cases hread : readItems calls (skipSpace u) with
    | mk items out =>
      obtain ⟨ending, rest'⟩ := out
      rw [hread] at h
      cases h
      obtain rfl : ending = .closed := by simpa [Tree.isBroken] using hv
      exact .inr ⟨gap, _, items, hgap, hu, hread, rfl⟩

/-- What a whole object was read from: nothing, or members from a quote up to a bracket. -/
theorem readValue_object_eq {calls : Nat} {u rest : Text} {v : Tree}
    (h : readValue (calls + 1) ('\x7b' :: u) = (v, rest)) (hv : v.isBroken = false) :
    (∃ gap, IsGap gap ∧ u = gap ++ '\x7d' :: rest ∧ v = .object [] .closed) ∨
      ∃ gap more members, IsGap gap ∧ u = gap ++ '"' :: more ∧
        readMembers calls more = (members, .closed, rest) ∧ v = .object members .closed := by
  rw [readValue, skipSpace_of_not_isSpace (by decide)] at h
  simp only at h
  split at h
  · cases h; cases hv
  · next hu =>
    obtain ⟨gap, hgap, rfl⟩ := skipSpace_eq_cons hu
    cases h
    exact .inl ⟨gap, hgap, rfl, rfl⟩
  · next more hu =>
    obtain ⟨gap, hgap, rfl⟩ := skipSpace_eq_cons hu
    cases hread : readMembers calls more with
    | mk members out =>
      obtain ⟨ending, rest'⟩ := out
      rw [hread] at h
      cases h
      obtain rfl : ending = .closed := by simpa [Tree.isBroken] using hv
      exact .inr ⟨gap, more, members, hgap, rfl, hread, rfl⟩
  · cases h; cases hv

/-- What the elements of a closed list were read from: a whole value, and the bracket or a comma and
    more elements. -/
theorem readItems_eq {calls : Nat} {t rest : Text} {items : List Tree}
    (h : readItems (calls + 1) t = (items, .closed, rest)) :
    ∃ v u, readValue calls t = (v, u) ∧ v.isBroken = false ∧
      ((∃ gap, IsGap gap ∧ u = gap ++ ']' :: rest ∧ items = [v]) ∨
        ∃ before after more others, IsGap before ∧ IsGap after ∧
          u = before ++ ',' :: (after ++ more) ∧ readItems calls more = (others, .closed, rest) ∧
          items = v :: others) := by
  rw [readItems] at h
  cases hread : readValue calls t with
  | mk v u =>
    rw [hread] at h
    simp only at h
    split at h
    · cases h
    · next hwhole =>
      refine ⟨v, u, rfl, by simpa using hwhole, ?_⟩
      split at h
      · cases h
      · next hu =>
        obtain ⟨gap, hgap, rfl⟩ := skipSpace_eq_cons hu
        cases h
        exact .inl ⟨gap, hgap, rfl, rfl⟩
      · next more hu =>
        obtain ⟨before, hbefore, rfl⟩ := skipSpace_eq_cons hu
        split at h
        · cases h
        · obtain ⟨after, hafter, hmore⟩ := exists_gap more
          cases hothers : readItems calls (skipSpace more) with
          | mk others out =>
            obtain ⟨ending, rest'⟩ := out
            rw [hothers] at h
            cases h
            exact .inr ⟨before, after, _, others, hbefore, hafter, by rw [← hmore], hothers, rfl⟩
      · cases h

/-- What the members of a closed object were read from: a key, a whole value, and the bracket or a
    comma and more members. -/
theorem readMembers_eq {calls : Nat} {t rest : Text} {members : List (StringToken × Tree)}
    (h : readMembers (calls + 1) t = (members, .closed, rest)) :
    ∃ k key before w v u, k.Spelled key ∧ IsGap before ∧ t = key ++ '"' :: (before ++ ':' :: w) ∧
      readValue calls w = (v, u) ∧ v.isBroken = false ∧
      ((∃ gap, IsGap gap ∧ u = gap ++ '\x7d' :: rest ∧ members = [(k, v)]) ∨
        ∃ gap gap' more others, IsGap gap ∧ IsGap gap' ∧ u = gap ++ ',' :: (gap' ++ '"' :: more) ∧
          readMembers calls more = (others, .closed, rest) ∧ members = (k, v) :: others) := by
  rw [readMembers] at h
  cases hkey : readString t with
  | mk k u =>
    rw [hkey] at h
    simp only at h
    split at h
    · cases h
    · next hclosed =>
      obtain ⟨key, hk, rfl⟩ := spelled_of_readString hkey (by simpa using hclosed)
      split at h
      · cases h
      · next w hu =>
        obtain ⟨before, hbefore, rfl⟩ := skipSpace_eq_cons hu
        cases hread : readValue calls w with
        | mk v u =>
          rw [hread] at h
          simp only at h
          split at h
          · cases h
          · next hwhole =>
            refine ⟨k, key, before, w, v, u, hk, hbefore, rfl, hread, by simpa using hwhole, ?_⟩
            split at h
            · cases h
            · next hu =>
              obtain ⟨gap, hgap, rfl⟩ := skipSpace_eq_cons hu
              cases h
              exact .inl ⟨gap, hgap, rfl, rfl⟩
            · next hu =>
              obtain ⟨gap, hgap, rfl⟩ := skipSpace_eq_cons hu
              split at h
              · cases h
              · cases h
              · next more hmore =>
                obtain ⟨gap', hgap', rfl⟩ := skipSpace_eq_cons hmore
                cases hothers : readMembers calls more with
                | mk others out =>
                  obtain ⟨ending, rest'⟩ := out
                  rw [hothers] at h
                  cases h
                  exact .inr ⟨gap, gap', more, others, hgap, hgap', rfl, hothers, rfl⟩
              · cases h
            · cases h
      · cases h

mutual

/-- **A whole value that is read is spelled** by the text between a gap and the rest. -/
theorem spelled_of_readValue {calls : Nat} {t rest : Text} {v : Tree}
    (h : readValue calls t = (v, rest)) (hv : v.isBroken = false) :
    ∃ gap s, IsGap gap ∧ v.Spelled s ∧ t = gap ++ (s ++ rest) := by
  cases calls with
  | zero =>
    rw [readValue] at h
    cases h
    cases hv
  | succ calls =>
    have hread := h
    -- the first character behind a gap tells what is read
    rw [readValue] at h
    split at h
    · cases h; cases hv
    · next heq =>
      obtain ⟨gap, hgap, rfl⟩ := skipSpace_eq_cons heq
      obtain ⟨rfl, rfl⟩ := eq_append_of_readName h hv
      exact ⟨gap, _, hgap, .nullName, rfl⟩
    · next heq =>
      obtain ⟨gap, hgap, rfl⟩ := skipSpace_eq_cons heq
      obtain ⟨rfl, rfl⟩ := eq_append_of_readName h hv
      exact ⟨gap, _, hgap, .trueName, rfl⟩
    · next heq =>
      obtain ⟨gap, hgap, rfl⟩ := skipSpace_eq_cons heq
      obtain ⟨rfl, rfl⟩ := eq_append_of_readName h hv
      exact ⟨gap, _, hgap, .falseName, rfl⟩
    · next heq =>
      obtain ⟨gap, hgap, rfl⟩ := skipSpace_eq_cons heq
      obtain ⟨n, s, rfl, hsign, hn, rfl⟩ := spelled_of_readNumber h hv
      exact ⟨gap, _, hgap, .negative hn hsign, rfl⟩
    · next u heq =>
      obtain ⟨gap, hgap, rfl⟩ := skipSpace_eq_cons heq
      cases hstring : readString u with
      | mk k u' =>
        rw [hstring] at h
        cases h
        obtain ⟨s, hk, rfl⟩ := spelled_of_readString hstring (by simpa [Tree.isBroken] using hv)
        exact ⟨gap, _, hgap, .string hk, by simp⟩
    · next u heq =>
      obtain ⟨gap, hgap, rfl⟩ := skipSpace_eq_cons heq
      rw [readValue_gap hgap] at hread
      rcases readValue_list_eq hread hv with
        ⟨gap', hgap', rfl, rfl⟩ | ⟨gap', more, items, hgap', rfl, hitems, rfl⟩
      · exact ⟨gap, _, hgap, .emptyList hgap', by simp⟩
      · obtain ⟨gap'', s, hgap'', hs, rfl⟩ := spelled_of_readItems hitems
        exact ⟨gap, _, hgap, .list (hgap'.append hgap'') hs, by simp⟩
    · next u heq =>
      obtain ⟨gap, hgap, rfl⟩ := skipSpace_eq_cons heq
      rw [readValue_gap hgap] at hread
      rcases readValue_object_eq hread hv with
        ⟨gap', hgap', rfl, rfl⟩ | ⟨gap', more, members, hgap', rfl, hmembers, rfl⟩
      · exact ⟨gap, _, hgap, .emptyObject hgap', by simp⟩
      · obtain ⟨s, hs, rfl⟩ := spelled_of_readMembers hmembers
        exact ⟨gap, _, hgap, .object hgap' hs, by simp⟩
    · next heq =>
      obtain ⟨gap, hgap, rfl⟩ := skipSpace_eq_cons heq
      split at h
      · obtain ⟨n, s, rfl, hsign, hn, hs⟩ := spelled_of_readNumber h hv
        exact ⟨gap, s, hgap, .number hn hsign, by rw [hs]⟩
      · cases h; cases hv

/-- The elements of a closed list are spelled by the text between a gap and the bracket. -/
theorem spelled_of_readItems {calls : Nat} {t rest : Text} {items : List Tree}
    (h : readItems calls t = (items, .closed, rest)) :
    ∃ gap s, IsGap gap ∧ ItemsSpelled items s ∧ t = gap ++ (s ++ ']' :: rest) := by
  cases calls with
  | zero =>
    rw [readItems] at h
    cases h
  | succ calls =>
    obtain ⟨v, u, hread, hwhole, hrest⟩ := readItems_eq h
    obtain ⟨gap, s, hgap, hv, rfl⟩ := spelled_of_readValue hread hwhole
    rcases hrest with
      ⟨before, hbefore, rfl, rfl⟩ | ⟨before, after, more, others, hbefore, hafter, rfl, hothers, rfl⟩
    · exact ⟨gap, _, hgap, .last hv hbefore, by simp⟩
    · obtain ⟨after', s', hafter', hs', rfl⟩ := spelled_of_readItems hothers
      exact ⟨gap, _, hgap, .more hv hbefore (hafter.append hafter') hs', by simp⟩

/-- The members of a closed object are spelled by the text in front of the bracket, with the quote
    that opens the first key. -/
theorem spelled_of_readMembers {calls : Nat} {t rest : Text} {members : List (StringToken × Tree)}
    (h : readMembers calls t = (members, .closed, rest)) :
    ∃ s, MembersSpelled members ('"' :: s) ∧ t = s ++ '\x7d' :: rest := by
  cases calls with
  | zero =>
    rw [readMembers] at h
    cases h
  | succ calls =>
    obtain ⟨k, key, before, w, v, u, hk, hbefore, rfl, hread, hwhole, hrest⟩ := readMembers_eq h
    obtain ⟨after, s, hafter, hv, rfl⟩ := spelled_of_readValue hread hwhole
    rcases hrest with
      ⟨gap, hgap, rfl, rfl⟩ | ⟨gap, gap', more, others, hgap, hgap', rfl, hothers, rfl⟩
    · exact ⟨_, .last hk hbefore hafter hv hgap, by simp⟩
    · obtain ⟨s', hs', rfl⟩ := spelled_of_readMembers hothers
      exact ⟨_, .more hk hbefore hafter hv hgap hgap' hs', by simp⟩

end

/-! ## Texts -/

/-- A text holds a value and nothing else, with gaps around it. -/
def Holds (t : Text) (v : Tree) : Prop :=
  ∃ before s after, IsGap before ∧ v.Spelled s ∧ IsGap after ∧ t = before ++ (s ++ after)

/-- **Reading is the inverse of writing**: a text is read as a whole value up to its end exactly if it
    holds the value. -/
theorem readTree_eq_iff {t : Text} {v : Tree} :
    readTree t = (v, []) ∧ v.isBroken = false ↔ Holds t v := by
  constructor
  · rintro ⟨h, hv⟩
    cases hread : readValue (2 * t.length + 2) t with
    | mk v' rest =>
      rw [readTree, hread] at h
      obtain ⟨rfl, hrest⟩ := Prod.mk.inj h
      obtain ⟨before, s, hbefore, hs, ht⟩ := spelled_of_readValue hread hv
      obtain ⟨after, hafter, hskip⟩ := exists_gap rest
      replace hrest : skipSpace rest = [] := hrest
      rw [hrest, List.append_nil] at hskip
      exact ⟨before, s, after, hbefore, hs, hafter, by rw [ht, hskip]⟩
  · rintro ⟨before, s, after, hbefore, hs, hafter, rfl⟩
    have hread := hs.read (2 * (before ++ (s ++ after)).length + 2) after (by simp; omega) hbefore
      hafter.endsNumber
    refine ⟨?_, hs.isBroken⟩
    rw [readTree, hread]
    have hskip := skipSpace_gap_append hafter []
    rw [List.append_nil] at hskip
    simp only [hskip]
    rfl

end ListeningCharts.Json
