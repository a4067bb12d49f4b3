import BytecodeParity.Proofs.Hex.Digits
/-!
# Texts without a fault

`fault?` looks for what keeps a text from being whole bytes, and it looks at the bytes of the text
and not at its characters. It finds nothing exactly if the text is `WholeBytes`
(`fault?_eq_none_iff`): a character of more than one byte has no byte that is the code of a digit.
-/

namespace BytecodeParity.Hex

open Text

/-- Every byte of a longer character lies above those of the digits. -/
theorem le_of_mem_utf8EncodeChar {c : Char} (h : 0x80 ≤ c.toNat) {b : UInt8}
    (hb : b ∈ String.utf8EncodeChar c) : 0x80 ≤ b.toNat := by
  have hor : ∀ x k : UInt8, 0x80 ≤ k.toNat → 0x80 ≤ (x ||| k).toNat := fun x k hk => by
    rw [UInt8.toNat_or]
    exact le_trans hk Nat.right_le_or
  rcases c.utf8Size_eq with hs | hs | hs | hs
  · rw [Char.utf8Size_eq_one_iff, UInt32.le_iff_toNat_le] at hs
    exact absurd hs (Nat.not_le.mpr h)
  · rw [String.utf8EncodeChar_eq_cons_cons hs] at hb
    simp only [List.mem_cons, List.not_mem_nil, or_false] at hb
    rcases hb with rfl | rfl <;> exact hor _ _ (by decide)
  · rw [String.utf8EncodeChar_eq_cons_cons_cons hs] at hb
    simp only [List.mem_cons, List.not_mem_nil, or_false] at hb
    rcases hb with rfl | rfl | rfl <;> exact hor _ _ (by decide)
  · rw [String.utf8EncodeChar_eq_cons_cons_cons_cons hs] at hb
    simp only [List.mem_cons, List.not_mem_nil, or_false] at hb
    rcases hb with rfl | rfl | rfl | rfl <;> exact hor _ _ (by decide)

theorem lt_of_isDigitByte {b : UInt8} (h : isDigitByte b = true) : b.toNat < 0x80 := by
  have hlt := toNat_lt_of_digit (show isDigit _ = true from h)
  rwa [toNat_ofNat (by have := b.toNat_lt; omega)] at hlt

/-- The bytes of a character are digits exactly if the character is one. -/
theorem forall_isDigitByte_iff {c : Char} :
    (∀ b ∈ String.utf8EncodeChar c, isDigitByte b = true) ↔ isDigit c = true := by
  constructor
  · intro h
    have hlt : c.toNat < 0x80 := by
      by_contra hge
      obtain ⟨b, hb⟩ := List.exists_mem_of_ne_nil _ String.utf8EncodeChar_ne_nil
      exact absurd (lt_of_isDigitByte (h b hb))
        (Nat.not_lt.mpr (le_of_mem_utf8EncodeChar (Nat.not_lt.mp hge) hb))
    have hbyte := h c.toNat.toUInt8 (by rw [utf8EncodeChar_ascii hlt]; exact List.mem_cons_self)
    rwa [isDigitByte, toNat_toUInt8 hlt, Char.ofNat_toNat] at hbyte
  · intro h b hb
    have hlt : c.toNat < 0x80 := toNat_lt_of_digit h
    rw [utf8EncodeChar_ascii hlt, List.mem_singleton] at hb
    rw [hb, isDigitByte, toNat_toUInt8 hlt, Char.ofNat_toNat]
    exact h

/-- **A text has no fault exactly if it is whole bytes.** -/
theorem fault?_eq_none_iff {t : Text} : fault? t = none ↔ WholeBytes t := by
  -- `fault?` asks two things of the bytes; the number of bytes is that of the characters only once
  -- the characters are known to be digits.
  have hbytes : (∀ b ∈ utf8 t, isDigitByte b = true) ↔ Digits t := by
    simp only [utf8, List.mem_flatMap, Digits, ← forall_isDigitByte_iff]
    constructor
    · intro h c hc b hb
      exact h b ⟨c, hc, hb⟩
    · rintro h b ⟨c, hc, hb⟩
      exact h c hc b hb
  have hfind : ((utf8 t).zipIdx.find? fun e => !isDigitByte e.1) = none ↔
      ∀ b ∈ utf8 t, isDigitByte b = true := by
    rw [List.find?_eq_none]
    constructor
    · intro h b hb
      obtain ⟨i, hi⟩ := List.getElem?_of_mem hb
      simpa using h (b, i) (List.mem_zipIdx_iff_getElem?.mpr hi)
    · intro h e he
      simpa using h e.1 (List.mem_of_getElem? (List.mem_zipIdx_iff_getElem?.mp he))
  have hnone : fault? t = none ↔
      (utf8 t).length % 2 = 0 ∧ ∀ b ∈ utf8 t, isDigitByte b = true := by
    unfold fault?
    rcases Nat.mod_two_eq_zero_or_one (utf8 t).length with hlen | hlen
    · simp only [hlen, zero_ne_one, if_false, Option.map_eq_none_iff, true_and, hfind]
    · simp [hlen]
  rw [hnone, hbytes]
  constructor
  · rintro ⟨hlen, hd⟩
    exact ⟨hd, length_utf8 hd.ascii ▸ hlen⟩
  · rintro ⟨hd, hlen⟩
    exact ⟨(length_utf8 hd.ascii).symm ▸ hlen, hd⟩

end BytecodeParity.Hex
