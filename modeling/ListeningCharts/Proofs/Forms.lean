import ListeningCharts.Proofs.Encoding
import ListeningCharts.Text.FormEncoded

/-! # Forms, read back

    What a form writes is read back by putting a space for each `+`, taking the bytes behind each
    percent sign, and reading these as UTF-8. A text comes back as it was
    (`formDecode?_formEncode`), so different texts are written differently (`formEncode_injective`).
-/

namespace ListeningCharts.Text

/-- A plus sign stands for a space. -/
def plusToSpace (c : Char) : Char := if c = '+' then ' ' else c

/-- The text that a form has written, if it is one. -/
def formDecode? (t : Text) : Option Text := Utf8.decode? (percentDecode (t.map plusToSpace))

theorem percentDecode_cons {c : Char} (hc : c ≠ '%') (t : Text) :
    percentDecode (c :: t) = Utf8.encodeChar c ++ percentDecode t := by
  rw [percentDecode.eq_def]
  split
  · next heq =>
    cases heq
    exact absurd rfl hc
  · next heq =>
    cases heq
    rfl
  · next heq => cases heq

/-- A byte that a form writes as a character is the only byte of it, and neither sign. -/
theorem char_of_isFormSafe {b : UInt8} (h : isFormSafe b = true) :
    Char.ofNat b.toNat ≠ '%' ∧ Char.ofNat b.toNat ≠ '+' ∧
      Utf8.encodeChar (Char.ofNat b.toNat) = [b] := by
  -- a matter of all the bytes there are
  have hall : ∀ n < 256, isFormSafe (UInt8.ofNat n) = true →
      Char.ofNat (UInt8.ofNat n).toNat ≠ '%' ∧ Char.ofNat (UInt8.ofNat n).toNat ≠ '+' ∧
        Utf8.encodeChar (Char.ofNat (UInt8.ofNat n).toNat) = [UInt8.ofNat n] := by decide +kernel
  have hb := hall b.toNat b.toNat_lt
  rw [UInt8.ofNat_toNat] at hb
  exact hb h

/-- The digits behind a percent sign are no plus signs. -/
theorem map_plusToSpace_percentByte (b : UInt8) :
    (percentByte b).map plusToSpace = percentByte b := by
  have hall : ∀ n < 16, plusToSpace (upperHexDigit n) = upperHexDigit n := by decide
  have hb := b.toNat_lt
  have hhigh := hall (b.toNat / 16) (by omega)
  have hlow := hall (b.toNat % 16) (by omega)
  rw [percentByte, List.map_cons, List.map_cons, List.map_cons, List.map_nil, hhigh, hlow]
  rfl

/-- A byte that a form writes is read back. -/
theorem percentDecode_formByte_append (b : UInt8) (t : Text) :
    percentDecode ((formByte b).map plusToSpace ++ t) = b :: percentDecode t := by
  -- a space is written as a plus sign, a safe byte as it is, and any other one with two digits
  rw [formByte]
  split
  · next hspace =>
    rw [hspace]
    show percentDecode (' ' :: t) = _
    rw [percentDecode_cons (by decide)]
    rfl
  · split
    · next hsafe =>
      obtain ⟨hpercent, hplus, hone⟩ := char_of_isFormSafe hsafe
      have hchar : plusToSpace (Char.ofNat b.toNat) = Char.ofNat b.toNat := if_neg hplus
      rw [List.map_cons, List.map_nil, hchar, List.singleton_append, percentDecode_cons hpercent,
        hone]
      rfl
    · rw [map_plusToSpace_percentByte, percentDecode_percentByte_append]

theorem percentDecode_formBytes (bytes : Bytes) :
    percentDecode ((bytes.flatMap formByte).map plusToSpace) = bytes := by
  induction bytes with
  | nil => rfl
  | cons b bytes ih =>
    rw [List.flatMap_cons, List.map_append, percentDecode_formByte_append, ih]

/-- **What a form writes is read back.** -/
theorem formDecode?_formEncode (t : Text) : formDecode? (formEncode t) = some t := by
  rw [formDecode?, formEncode, percentDecode_formBytes, Utf8.decode?_encode]

/-- A form writes different texts differently. -/
theorem formEncode_injective {t t' : Text} (h : formEncode t = formEncode t') : t = t' := by
  have hread := formDecode?_formEncode t
  rw [h, formDecode?_formEncode] at hread
  exact (Option.some.inj hread).symm

/-! ## Pairs -/

theorem formPairs_cons (name value : Text) (next : Text × Text) (pairs : List (Text × Text)) :
    formPairs ((name, value) :: next :: pairs) =
      formEncode name ++ "=" ++ formEncode value ++ "&" ++ formPairs (next :: pairs) := by
  rw [formPairs, List.map_cons, List.map_cons, List.intercalate_cons_cons]
  simp [formPairs]

end ListeningCharts.Text
