/-! # Text

A text is the list of its characters. Positions in a text are counted in bytes of its UTF-8 form,
so a position can lie inside a character; `splitAtByte` finds a cut only between characters.

Main statements: cutting a text keeps every character (`splitAtByte_append`), and the lines of a
text, joined again, are the text (`joinLines_lines`).
-/

namespace ListeningCharts

/-- A text: its characters in order. -/
abbrev Text := List Char

/-- A string literal stands for the text of its characters. -/
instance coeStringText : Coe String (List Char) := ⟨String.toList⟩

namespace Text

/-! ## Bytes -/

/-- The number of bytes of the UTF-8 form. -/
def byteLength (t : Text) : Nat := t.foldr (fun c n => c.utf8Size + n) 0

@[simp] theorem byteLength_nil : byteLength [] = 0 := rfl

@[simp] theorem byteLength_cons (c : Char) (t : Text) :
    byteLength (c :: t) = c.utf8Size + byteLength t := rfl

@[simp] theorem byteLength_append (s t : Text) :
    byteLength (s ++ t) = byteLength s + byteLength t := by
  induction s with
  | nil => simp
  | cons c s ih => rw [List.cons_append, byteLength_cons, ih, byteLength_cons, Nat.add_assoc]

/-- The text before and the text after byte `n`; none if `n` lies inside a character or beyond the
end. -/
def splitAtByte : Nat → Text → Option (Text × Text)
  | 0, t => some ([], t)
  | _ + 1, [] => none
  | n + 1, c :: t =>
    if c.utf8Size ≤ n + 1 then
      (splitAtByte (n + 1 - c.utf8Size) t).map fun (before, after) => (c :: before, after)
    else none

/-- The text between two byte positions; none if they are out of order, out of range or inside a
character. -/
def slice? (t : Text) (start stop : Nat) : Option Text :=
  if start ≤ stop then
    (splitAtByte start t).bind fun (_, rest) => (splitAtByte (stop - start) rest).map Prod.fst
  else none

theorem splitAtByte_append (s t : Text) : splitAtByte (byteLength s) (s ++ t) = some (s, t) := by
  induction s with
  | nil => cases t <;> rfl
  | cons c s ih =>
    have hc := c.utf8Size_pos
    obtain ⟨n, hn⟩ : ∃ n, byteLength (c :: s) = n + 1 := ⟨byteLength (c :: s) - 1, by simp; omega⟩
    have hle : c.utf8Size ≤ n + 1 := by rw [← hn]; simp
    have hrest : n + 1 - c.utf8Size = byteLength s := by rw [← hn]; simp
    rw [hn, List.cons_append, splitAtByte, if_pos hle, hrest, ih]
    rfl

theorem eq_append_of_splitAtByte {n : Nat} {t before after : Text}
    (h : splitAtByte n t = some (before, after)) : t = before ++ after ∧ byteLength before = n := by
  induction t generalizing n before after with
  | nil => cases n <;> simp_all [splitAtByte]
  | cons c t ih =>
    cases n with
    | zero => simp_all [splitAtByte]
    | succ n =>
      rw [splitAtByte] at h
      split at h
      · next hc =>
        obtain ⟨⟨b, a⟩, hb, heq⟩ := Option.map_eq_some_iff.1 h
        obtain ⟨ht, hlen⟩ := ih hb
        simp only [Prod.mk.injEq] at heq
        obtain ⟨rfl, rfl⟩ := heq
        exact ⟨by rw [ht, List.cons_append], by rw [byteLength_cons, hlen]; omega⟩
      · simp at h

/-- A slice is found exactly where the text holds it. -/
theorem slice?_eq_some_iff {t mid : Text} {start stop : Nat} :
    t.slice? start stop = some mid ↔ ∃ before after, t = before ++ mid ++ after ∧
      start = before.byteLength ∧ stop = before.byteLength + mid.byteLength := by
  constructor
  · intro h
    rw [slice?] at h
    split at h
    · next hle =>
      obtain ⟨⟨before, rest⟩, hbefore, hrest⟩ := Option.bind_eq_some_iff.1 h
      obtain ⟨⟨text, after⟩, htext, hmid⟩ := Option.map_eq_some_iff.1 hrest
      obtain ⟨rfl, hstart⟩ := eq_append_of_splitAtByte hbefore
      obtain ⟨rfl, hlength⟩ := eq_append_of_splitAtByte htext
      obtain rfl : text = mid := hmid
      exact ⟨before, after, (List.append_assoc ..).symm, hstart.symm, by omega⟩
    · cases h
  · rintro ⟨before, after, rfl, rfl, rfl⟩
    rw [slice?, if_pos (Nat.le_add_right _ _), Nat.add_sub_cancel_left, List.append_assoc,
      splitAtByte_append]
    simp only [Option.bind_some, splitAtByte_append, Option.map_some]

/-! ## Lines -/

/-- The stretches between line feeds; a text without a line feed is one line. -/
def lines (t : Text) : List Text := t.splitOn '\n'

/-- The lines with a line feed between each two. -/
def joinLines (ls : List Text) : Text := ['\n'].intercalate ls

theorem joinLines_lines (t : Text) : joinLines (lines t) = t := List.intercalate_splitOn '\n'

/-! ## Numbers -/

/-- The decimal digits of a number. -/
def ofNat (n : Nat) : Text := Nat.toDigits 10 n

/-- The decimal digits, with a minus sign for a negative number. -/
def ofInt : Int → Text
  | .ofNat n => ofNat n
  | .negSucc n => '-' :: ofNat (n + 1)

/-- The digits of a number, with zeros in front up to a width. -/
def padded (width n : Nat) : Text := (ofNat n).leftpad width '0'

/-! ## Letter case -/

/-- ASCII letters in lower case; every other character as it is. -/
def toAsciiLower (t : Text) : Text := t.map Char.toLower

/-- ASCII letters in upper case; every other character as it is. -/
def toAsciiUpper (t : Text) : Text := t.map Char.toUpper

end Text

end ListeningCharts
