import BytecodeParity.Text.Lossy
import BytecodeParity.Text.Replace
/-!
# What a replacement keeps

The size of a text is counted in bytes of its UTF-8 form (`length_utf8_eq_byteSize`), and characters
take one to four of them. So a pass that writes other characters may keep the length of a text and
change its size, or the other way round. Small letters are as large as their capitals, and **a
replacement keeps the size of a text whenever it keeps the size of what it replaces**
(`byteSize_replaceAll`), at whatever places that stands. The front of a text it changes only if what
it replaces stands there (`exists_replaceFrom_cons`).
-/

namespace BytecodeParity.Text

variable {c : Char} {t old new : Text}

/-! ## Sizes -/

theorem length_utf8_eq_byteSize (t : Text) : (utf8 t).length = byteSize t := by
  induction t with
  | nil => rfl
  | cons c t ih =>
    rw [utf8, List.flatMap_cons, List.length_append, String.length_utf8EncodeChar, byteSize_cons]
    exact congrArg _ ih

/-- A small letter has the size of its capital. -/
theorem utf8Size_toLower (c : Char) : c.toLower.utf8Size = c.utf8Size := by
  by_cases h : 'A'.val ≤ c.val ∧ c.val ≤ 'Z'.val
  · have hval : c.toLower.val = c.val + 32 := congrArg Char.val (dif_pos h)
    have hsmall : c.toLower.utf8Size = 1 := by
      rw [Char.utf8Size_eq_one_iff, hval]
      simp only [UInt32.le_iff_toNat_le, UInt32.toNat_add] at h ⊢
      have hZ : 'Z'.val.toNat = 90 := rfl
      have h32 : (32 : UInt32).toNat = 32 := rfl
      have h127 : (127 : UInt32).toNat = 127 := rfl
      omega
    have hcapital : c.utf8Size = 1 := by
      rw [Char.utf8Size_eq_one_iff]
      exact UInt32.le_trans h.2 (by decide)
    rw [hsmall, hcapital]
  · have hsame : c.toLower = c := dif_neg h
    rw [hsame]

theorem byteSize_lower (t : Text) : byteSize (lower t) = byteSize t := by
  induction t with
  | nil => rfl
  | cons c t ih => rw [lower_cons, byteSize_cons, byteSize_cons, utf8Size_toLower, ih]

theorem byteSize_replicate (c : Char) (n : Nat) :
    byteSize (List.replicate n c) = n * c.utf8Size := by
  induction n with
  | zero => simp
  | succ n ih => rw [List.replicate_succ, byteSize_cons, ih, Nat.succ_mul, Nat.add_comm]

theorem byteSize_pos (h : t ≠ []) : 0 < byteSize t := by
  cases t with
  | nil => exact absurd rfl h
  | cons c t =>
    rw [byteSize_cons]
    exact Nat.add_pos_left (Char.utf8Size_pos c) _

/-! ## Replacing -/

theorem byteSize_replaceFrom (hold : old ≠ []) (h : byteSize new = byteSize old) (skip : Nat) :
    byteSize (replaceFrom old new skip t) = byteSize (t.drop skip) := by
  have hpos := List.length_pos_iff.mpr hold
  induction t generalizing skip with
  | nil => simp [replaceFrom]
  | cons c t ih =>
    cases skip with
    | succ k => rw [replaceFrom, ih, List.drop_succ_cons]
    | zero =>
      rw [replaceFrom, List.drop_zero]
      split
      next hocc =>
        -- What is replaced and what follows it make up the text.
        obtain ⟨rest, hrest⟩ := List.isPrefixOf_iff_prefix.mp hocc
        have hbehind : t.drop (old.length - 1) = rest := by
          have hdrop : (c :: t).drop old.length = rest := by rw [← hrest, List.drop_left]
          rwa [show old.length = old.length - 1 + 1 by omega, List.drop_succ_cons] at hdrop
        rw [byteSize_append, ih, hbehind, h, ← byteSize_append, hrest]
      · rw [byteSize_cons, ih, List.drop_zero, byteSize_cons]

/-- Replacing by a text of the same size keeps the size. -/
theorem byteSize_replaceAll (h : byteSize new = byteSize old) :
    byteSize (replaceAll old new t) = byteSize t := by
  by_cases hold : old = []
  · rw [hold]
    rfl
  · rw [replaceAll, if_neg (by simpa using hold), byteSize_replaceFrom hold h, List.drop_zero]

/-- The front of a text after a replacement by a run of one character. -/
theorem exists_replaceFrom_cons {n : Nat} (hn : 0 < n) (old : Text) (c d : Char) (t : Text) :
    ∃ s, replaceFrom old (List.replicate n d) 0 (c :: t) =
      (if old <+: c :: t then d else c) :: s := by
  obtain ⟨m, rfl⟩ := Nat.exists_eq_succ_of_ne_zero (Nat.ne_of_gt hn)
  rw [replaceFrom]
  by_cases hocc : old <+: c :: t
  · rw [if_pos (List.isPrefixOf_iff_prefix.mpr hocc), if_pos hocc, List.replicate_succ]
    exact ⟨_, rfl⟩
  · rw [if_neg (mt List.isPrefixOf_iff_prefix.mp hocc), if_neg hocc]
    exact ⟨_, rfl⟩

end BytecodeParity.Text
