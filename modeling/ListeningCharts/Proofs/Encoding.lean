import ListeningCharts.Text.Utf8

/-! # Reading what was encoded

    The bytes of a text read back as the text (`Utf8.decode?_encode`), and no other bytes do
    (`Utf8.eq_encode_of_decode?`). A character takes one byte or a sequence of two to four; the first
    byte of a sequence opens it, and each further byte brings six bits of the code point.

    The ranges of the second byte leave out what no character is encoded as: overlong forms,
    surrogates, and all beyond the last code point.
-/

namespace ListeningCharts

namespace Utf8

/-! ## Bytes -/

theorem toNat_ofNat {n : Nat} (h : n < 0x100) : (UInt8.ofNat n).toNat = n := by
  rw [UInt8.toNat_ofNat']
  omega

/-- The byte that opens a sequence. -/
theorem read_opening {b : UInt8} {s : Sequence} (h : start b = .opening s) (rest : Bytes) :
    read none (b :: rest) = read (some s) rest := by
  rw [read, h]

/-- A further byte brings six bits. -/
theorem read_tail {s : Sequence} {m : Nat} (hm : m < 64) (hlow : s.low.toNat ≤ 0x80 + m)
    (hhigh : 0x80 + m ≤ s.high.toNat) (rest : Bytes) :
    read (some s) (UInt8.ofNat (0x80 + m) :: rest) =
      if s.owed = 1 then some (Char.ofNat (s.payload * 0x40 + m)) :: read none rest
      else read (some { payload := s.payload * 0x40 + m, owed := s.owed - 1 }) rest := by
  have hb : (UInt8.ofNat (0x80 + m)).toNat = 0x80 + m := toNat_ofNat (by omega)
  have hbits : (0x80 + m) % 0x40 = m := by omega
  rw [read, if_pos, hb, hbits]
  rw [UInt8.le_iff_toNat_le, UInt8.le_iff_toNat_le, hb]
  exact ⟨hlow, hhigh⟩

/-- A further byte of a sequence without a range of its own. -/
theorem read_tail_of_owed {payload owed m : Nat} (hm : m < 64) (rest : Bytes) :
    read (some { payload, owed }) (UInt8.ofNat (0x80 + m) :: rest) =
      if owed = 1 then some (Char.ofNat (payload * 0x40 + m)) :: read none rest
      else read (some { payload := payload * 0x40 + m, owed := owed - 1 }) rest :=
  @read_tail { payload, owed } m hm (Nat.le_add_right 0x80 m) (by show _ ≤ 0xbf; omega) rest

/-! ## First bytes -/

variable {n : Nat}

theorem start_of_one (h : n < 0x80) : start (UInt8.ofNat n) = .single (Char.ofNat n) := by
  have hb : (UInt8.ofNat n).toNat = n := toNat_ofNat (by omega)
  simp only [start, hb]
  rw [if_pos h]

theorem start_of_two (hlow : 0x80 ≤ n) (hhigh : n < 0x800) :
    start (UInt8.ofNat (0xc0 + n / 0x40)) = .opening { payload := n / 0x40, owed := 1 } := by
  have hb : (UInt8.ofNat (0xc0 + n / 0x40)).toNat = 0xc0 + n / 0x40 := toNat_ofNat (by omega)
  have hbits : (0xc0 + n / 0x40) % 0x20 = n / 0x40 := by omega
  simp only [start, hb]
  rw [if_neg (by omega), if_neg (by omega), if_pos (by omega), hbits]

theorem exists_start_of_three (hlow : 0x800 ≤ n) (hhigh : n < 0x10000)
    (hsurrogate : n < 0xd800 ∨ 0xdfff < n) :
    ∃ s : Sequence, start (UInt8.ofNat (0xe0 + n / 0x1000)) = .opening s ∧
      s.payload = n / 0x1000 ∧ s.owed = 2 ∧ s.low.toNat ≤ 0x80 + n / 0x40 % 0x40 ∧
      0x80 + n / 0x40 % 0x40 ≤ s.high.toNat := by
  have hb : (UInt8.ofNat (0xe0 + n / 0x1000)).toNat = 0xe0 + n / 0x1000 := toNat_ofNat (by omega)
  simp only [start, hb]
  rw [if_neg (by omega), if_neg (by omega), if_neg (by omega)]
  split
  -- the first and the thirteenth block have ranges of their own, against overlong forms and surrogates
  · exact ⟨_, rfl, by show 0 = _; omega, rfl, by show 0xa0 ≤ _; omega, by show _ ≤ 0xbf; omega⟩
  · split
    · exact ⟨_, rfl, by show 0xd = _; omega, rfl, by show 0x80 ≤ _; omega, by show _ ≤ 0x9f; omega⟩
    · rw [if_pos (by omega)]
      exact ⟨_, rfl, by show _ % 0x10 = _; omega, rfl, by show 0x80 ≤ _; omega,
        by show _ ≤ 0xbf; omega⟩

theorem exists_start_of_four (hlow : 0x10000 ≤ n) (hhigh : n < 0x110000) :
    ∃ s : Sequence, start (UInt8.ofNat (0xf0 + n / 0x40000)) = .opening s ∧
      s.payload = n / 0x40000 ∧ s.owed = 3 ∧ s.low.toNat ≤ 0x80 + n / 0x1000 % 0x40 ∧
      0x80 + n / 0x1000 % 0x40 ≤ s.high.toNat := by
  have hb : (UInt8.ofNat (0xf0 + n / 0x40000)).toNat = 0xf0 + n / 0x40000 := toNat_ofNat (by omega)
  simp only [start, hb]
  rw [if_neg (by omega), if_neg (by omega), if_neg (by omega), if_neg (by omega),
    if_neg (by omega), if_neg (by omega)]
  split
  · exact ⟨_, rfl, by show 0 = _; omega, rfl, by show 0x90 ≤ _; omega, by show _ ≤ 0xbf; omega⟩
  · split
    · exact ⟨_, rfl, by show _ % 0x8 = _; omega, rfl, by show 0x80 ≤ _; omega,
        by show _ ≤ 0xbf; omega⟩
    · rw [if_pos (by omega)]
      exact ⟨_, rfl, by show 4 = _; omega, rfl, by show 0x80 ≤ _; omega, by show _ ≤ 0x8f; omega⟩

/-! ## Texts -/

/-- The bytes of a character read as the character. -/
theorem read_encodeChar (c : Char) (rest : Bytes) :
    read none (encodeChar c ++ rest) = some c :: read none rest := by
  have hvalid : c.toNat < 0xd800 ∨ 0xdfff < c.toNat ∧ c.toNat < 0x110000 := c.valid
  have hofNat : Char.ofNat c.toNat = c := Char.ofNat_toNat c
  -- each size of the sequence puts the bits of the code point together again
  generalize hn : c.toNat = n at hvalid hofNat
  have hmod : ∀ m : Nat, m % 0x40 < 64 := fun m => Nat.mod_lt m (by decide)
  simp only [encodeChar, hn]
  split
  · rw [List.singleton_append, read, start_of_one ‹_›, hofNat]
  · split
    · have hbits : n / 0x40 * 0x40 + n / 1 % 0x40 = n := by omega
      simp only [List.cons_append, List.nil_append]
      rw [read_opening (start_of_two (by omega) ‹_›), read_tail_of_owed (hmod _), if_pos rfl,
        hbits, hofNat]
    · split
      · obtain ⟨s, hstart, hpayload, howed, hlow, hhigh⟩ :=
          exists_start_of_three (n := n) (by omega) ‹_› (by omega)
        have hbits : (n / 0x1000 * 0x40 + n / 0x40 % 0x40) * 0x40 + n / 1 % 0x40 = n := by omega
        simp only [List.cons_append, List.nil_append]
        rw [read_opening hstart, read_tail (hmod _) hlow hhigh, howed, if_neg (by decide),
          read_tail_of_owed (hmod _), if_pos rfl, hpayload, hbits, hofNat]
      · obtain ⟨s, hstart, hpayload, howed, hlow, hhigh⟩ :=
          exists_start_of_four (n := n) (by omega) (by omega)
        have hbits : ((n / 0x40000 * 0x40 + n / 0x1000 % 0x40) * 0x40 + n / 0x40 % 0x40) * 0x40 +
            n / 1 % 0x40 = n := by omega
        simp only [List.cons_append, List.nil_append]
        rw [read_opening hstart, read_tail (hmod _) hlow hhigh, howed, if_neg (by decide),
          read_tail_of_owed (hmod _), if_neg (by decide), read_tail_of_owed (hmod _), if_pos rfl,
          hpayload, hbits, hofNat]

theorem units_encode (t : Text) : units (encode t) = t.map some := by
  induction t with
  | nil => rfl
  | cons c t ih =>
    rw [units] at ih
    rw [encode, List.flatMap_cons, units, read_encodeChar, List.map_cons]
    exact congrArg _ ih

/-- **A text is what its bytes read as**. -/
theorem decode?_encode (t : Text) : decode? (encode t) = some t := by
  rw [decode?, units_encode]
  induction t with
  | nil => rfl
  | cons c t ih => simp [List.mapM_cons, ih]

/-! ## Back to the bytes -/

/-- What a byte that is a character by itself tells of it. -/
theorem of_start_single {b : UInt8} {c : Char} (h : start b = .single c) :
    b.toNat < 0x80 ∧ c = Char.ofNat b.toNat := by
  unfold start at h
  simp only at h
  split at h
  · next hlt =>
    cases h
    exact ⟨hlt, rfl⟩
  · -- every other byte opens a sequence or is ill-formed
    repeat' split at h
    all_goals cases h

/-- What a byte that opens a sequence tells of the code point. -/
theorem exists_of_start_opening {b : UInt8} {s : Sequence} (h : start b = .opening s) :
    0x80 ≤ s.low.toNat ∧ s.high.toNat ≤ 0xbf ∧
      (s.owed = 1 ∧ 0x2 ≤ s.payload ∧ s.payload < 0x20 ∧ b.toNat = 0xc0 + s.payload ∨
        s.owed = 2 ∧ s.payload < 0x10 ∧ b.toNat = 0xe0 + s.payload ∧
          (s.payload = 0 → 0xa0 ≤ s.low.toNat) ∧ (s.payload = 0xd → s.high.toNat ≤ 0x9f) ∨
        s.owed = 3 ∧ s.payload < 0x5 ∧ b.toNat = 0xf0 + s.payload ∧
          (s.payload = 0 → 0x90 ≤ s.low.toNat) ∧ (s.payload = 4 → s.high.toNat ≤ 0x8f)) := by
  have hb : b.toNat < 0x100 := b.toNat_lt
  simp only [start] at h
  generalize b.toNat = n at hb h ⊢
  -- one case for each range of first bytes
  repeat' split at h
  all_goals cases h
  all_goals
    simp
    omega

/-- A byte that a sequence goes on with, as the six bits that it brings. -/
theorem exists_of_read_some {s : Sequence} {bytes : Bytes} {c : Char} {us : List (Option Char)}
    (hlow : 0x80 ≤ s.low.toNat) (hhigh : s.high.toNat ≤ 0xbf)
    (h : read (some s) bytes = some c :: us) :
    ∃ m rest, bytes = UInt8.ofNat (0x80 + m) :: rest ∧ m < 64 ∧ s.low.toNat ≤ 0x80 + m ∧
      0x80 + m ≤ s.high.toNat ∧
      (if s.owed = 1 then some (Char.ofNat (s.payload * 0x40 + m)) :: read none rest
        else read (some { payload := s.payload * 0x40 + m, owed := s.owed - 1 }) rest) =
          some c :: us := by
  cases bytes with
  | nil => simp [read] at h
  | cons b rest =>
    rw [read] at h
    split at h
    · next hrange =>
      rw [UInt8.le_iff_toNat_le, UInt8.le_iff_toNat_le] at hrange
      have hbits : b.toNat % 0x40 = b.toNat - 0x80 := by omega
      have hb : UInt8.ofNat (0x80 + (b.toNat - 0x80)) = b := by
        rw [Nat.add_sub_cancel' (by omega), UInt8.ofNat_toNat]
      refine ⟨b.toNat - 0x80, rest, by rw [hb], by omega, by omega, by omega, ?_⟩
      rw [← h, hbits]
    · simp at h

/-- A byte that a sequence without a range of its own goes on with. -/
theorem exists_of_read_owed {payload owed : Nat} {bytes : Bytes} {c : Char}
    {us : List (Option Char)} (h : read (some { payload, owed }) bytes = some c :: us) :
    ∃ m rest, bytes = UInt8.ofNat (0x80 + m) :: rest ∧ m < 64 ∧
      (if owed = 1 then some (Char.ofNat (payload * 0x40 + m)) :: read none rest
        else read (some { payload := payload * 0x40 + m, owed := owed - 1 }) rest) =
          some c :: us := by
  have hlow : 0x80 ≤ (Sequence.mk payload owed 0x80 0xbf).low.toNat := Nat.le_refl 0x80
  have hhigh : (Sequence.mk payload owed 0x80 0xbf).high.toNat ≤ 0xbf := Nat.le_refl 0xbf
  obtain ⟨m, rest, hbytes, hm, -, -, hrest⟩ := exists_of_read_some hlow hhigh h
  exact ⟨m, rest, hbytes, hm, hrest⟩

/-- A code point that is none of the surrogates is that of its character. -/
theorem toNat_char {n : Nat} (h : n < 0xd800 ∨ 0xdfff < n ∧ n < 0x110000) :
    (Char.ofNat n).toNat = n := by
  rw [Char.ofNat, dif_pos h]
  rfl

/-- The bytes of a character, by the bits that they bring. -/
theorem encodeChar_of_one {n : Nat} (h : n < 0x80) :
    encodeChar (Char.ofNat n) = [UInt8.ofNat n] := by
  have hn := @toNat_char n (by omega)
  simp only [encodeChar, hn]
  rw [if_pos h]

theorem encodeChar_of_two {p m : Nat} (hm : m < 64) (hlow : 0x2 ≤ p) (hhigh : p < 0x20) :
    encodeChar (Char.ofNat (p * 0x40 + m)) = [UInt8.ofNat (0xc0 + p), UInt8.ofNat (0x80 + m)] := by
  have hn := @toNat_char (p * 0x40 + m) (by omega)
  have h0 : (p * 0x40 + m) / 0x40 = p := by omega
  have h1 : (p * 0x40 + m) / 1 % 0x40 = m := by omega
  simp only [encodeChar, hn]
  rw [if_neg (by omega), if_pos (by omega), h0, h1]

theorem encodeChar_of_three {p m m' : Nat} (hm : m < 64) (hm' : m' < 64) (hp : p < 0x10)
    (hlow : p = 0 → 0x20 ≤ m) (hhigh : p = 0xd → m < 0x20) :
    encodeChar (Char.ofNat ((p * 0x40 + m) * 0x40 + m')) =
      [UInt8.ofNat (0xe0 + p), UInt8.ofNat (0x80 + m), UInt8.ofNat (0x80 + m')] := by
  have hn := @toNat_char ((p * 0x40 + m) * 0x40 + m') (by omega)
  have h0 : ((p * 0x40 + m) * 0x40 + m') / 0x1000 = p := by omega
  have h1 : ((p * 0x40 + m) * 0x40 + m') / 0x40 % 0x40 = m := by omega
  have h2 : ((p * 0x40 + m) * 0x40 + m') / 1 % 0x40 = m' := by omega
  simp only [encodeChar, hn]
  rw [if_neg (by omega), if_neg (by omega), if_pos (by omega), h0, h1, h2]

theorem encodeChar_of_four {p m m' m'' : Nat} (hm : m < 64) (hm' : m' < 64) (hm'' : m'' < 64)
    (hp : p < 0x5) (hlow : p = 0 → 0x10 ≤ m) (hhigh : p = 4 → m < 0x10) :
    encodeChar (Char.ofNat (((p * 0x40 + m) * 0x40 + m') * 0x40 + m'')) =
      [UInt8.ofNat (0xf0 + p), UInt8.ofNat (0x80 + m), UInt8.ofNat (0x80 + m'),
        UInt8.ofNat (0x80 + m'')] := by
  have hn := @toNat_char (((p * 0x40 + m) * 0x40 + m') * 0x40 + m'') (by omega)
  have h0 : (((p * 0x40 + m) * 0x40 + m') * 0x40 + m'') / 0x40000 = p := by omega
  have h1 : (((p * 0x40 + m) * 0x40 + m') * 0x40 + m'') / 0x1000 % 0x40 = m := by omega
  have h2 : (((p * 0x40 + m) * 0x40 + m') * 0x40 + m'') / 0x40 % 0x40 = m' := by omega
  have h3 : (((p * 0x40 + m) * 0x40 + m') * 0x40 + m'') / 1 % 0x40 = m'' := by omega
  simp only [encodeChar, hn]
  rw [if_neg (by omega), if_neg (by omega), if_neg (by omega), h0, h1, h2, h3]

/-- The bytes of a sequence are those of the character that it was read as. -/
theorem eq_of_read_opening {b : UInt8} {s : Sequence} {bytes : Bytes} {c : Char}
    {us : List (Option Char)} (hstart : start b = .opening s)
    (h : read (some s) bytes = some c :: us) :
    ∃ rest, b :: bytes = encodeChar c ++ rest ∧ read none rest = us := by
  have hb := UInt8.ofNat_toNat (x := b)
  obtain ⟨hlow, hhigh, hkind⟩ := exists_of_start_opening hstart
  -- as many bytes follow as the first one says, each of them with six bits
  obtain ⟨m, rest, rfl, hm, hmlow, hmhigh, h⟩ := exists_of_read_some hlow hhigh h
  rcases hkind with ⟨howed, hp, hp', hbyte⟩ | ⟨howed, hp, hbyte, hfirst, hlast⟩ |
    ⟨howed, hp, hbyte, hfirst, hlast⟩
  · rw [if_pos howed] at h
    simp only [List.cons.injEq, Option.some.injEq] at h
    obtain ⟨rfl, hrest⟩ := h
    exact ⟨rest, by rw [encodeChar_of_two hm hp hp', ← hbyte, hb]; rfl, hrest⟩
  · rw [if_neg (by omega)] at h
    obtain ⟨m', rest, rfl, hm', h⟩ := exists_of_read_owed h
    rw [if_pos (by simp [howed])] at h
    simp only [List.cons.injEq, Option.some.injEq] at h
    obtain ⟨rfl, hrest⟩ := h
    exact ⟨rest, by
      rw [encodeChar_of_three hm hm' hp (by omega) (by omega), ← hbyte, hb]; rfl, hrest⟩
  · rw [if_neg (by omega)] at h
    obtain ⟨m', rest, rfl, hm', h⟩ := exists_of_read_owed h
    rw [if_neg (by simp [howed])] at h
    obtain ⟨m'', rest, rfl, hm'', h⟩ := exists_of_read_owed h
    rw [if_pos (by simp [howed])] at h
    simp only [List.cons.injEq, Option.some.injEq] at h
    obtain ⟨rfl, hrest⟩ := h
    exact ⟨rest, by
      rw [encodeChar_of_four hm hm' hm'' hp (by omega) (by omega), ← hbyte, hb]; rfl, hrest⟩

/-- **A character that was read is encoded in the bytes it was read from**. -/
theorem eq_of_read_none {bytes : Bytes} {c : Char} {us : List (Option Char)}
    (h : read none bytes = some c :: us) :
    ∃ rest, bytes = encodeChar c ++ rest ∧ read none rest = us := by
  cases bytes with
  | nil => simp [read] at h
  | cons b rest =>
    rw [read] at h
    cases hstart : start b with
    | illFormed =>
      rw [hstart] at h
      simp at h
    | single c' =>
      rw [hstart] at h
      simp only [List.cons.injEq, Option.some.injEq] at h
      obtain ⟨rfl, hrest⟩ := h
      obtain ⟨hlt, rfl⟩ := of_start_single hstart
      exact ⟨rest, by rw [encodeChar_of_one hlt, UInt8.ofNat_toNat]; rfl, hrest⟩
    | opening s =>
      rw [hstart] at h
      exact eq_of_read_opening hstart h

/-- A sequence that is open reads as something, if only as a gap. -/
theorem read_some_ne_nil (s : Sequence) (bytes : Bytes) : read (some s) bytes ≠ [] := by
  induction bytes generalizing s with
  | nil => simp [read]
  | cons b rest ih =>
    rw [read]
    split
    · simp only
      split
      · exact List.cons_ne_nil _ _
      · exact ih _
    · exact List.cons_ne_nil _ _

theorem eq_nil_of_read_none {bytes : Bytes} (h : read none bytes = []) : bytes = [] := by
  cases bytes with
  | nil => rfl
  | cons b rest =>
    rw [read] at h
    split at h
    · cases h
    · exact absurd h (read_some_ne_nil _ _)
    · cases h

/-- **Bytes that read as a text are the bytes of the text**. -/
theorem eq_encode_of_decode? {bytes : Bytes} {t : Text} (h : decode? bytes = some t) :
    bytes = encode t := by
  have hunits : ∀ (us : List (Option Char)) (t : Text), us.mapM id = some t → us = t.map some := by
    intro us
    induction us with
    | nil =>
      intro t h
      cases h
      rfl
    | cons u us ih =>
      intro t h
      rw [List.mapM_cons] at h
      obtain ⟨c, hc, hmore⟩ := Option.bind_eq_some_iff.1 h
      obtain ⟨rest, hrest, hpure⟩ := Option.bind_eq_some_iff.1 hmore
      obtain rfl : u = some c := hc
      obtain rfl : c :: rest = t := Option.some.inj hpure
      rw [ih rest hrest, List.map_cons]
  have hread := hunits _ _ h
  rw [units] at hread
  clear h hunits
  induction t generalizing bytes with
  | nil => exact eq_nil_of_read_none hread
  | cons c t ih =>
    obtain ⟨rest, rfl, hrest⟩ := eq_of_read_none hread
    rw [ih hrest, encode, encode, List.flatMap_cons]

end Utf8

end ListeningCharts
