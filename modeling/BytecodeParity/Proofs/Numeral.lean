import BytecodeParity.Numeral
import BytecodeParity.Proofs.Outcome
/-!
# The number that digits denote

`Numeral.read` stops at the first character that is no digit and at the first excess over its bound,
so what it answers is known only once the whole text has been looked at. On digits there is nothing
to stop at but the bound, and a number never shrinks while digits are added to it: the answer is
the number that the text denotes if that lies below the bound (`read?_of_digits`), and the excess
otherwise, however many zeros lead. One plus sign in front of the digits changes nothing, and no
other text is read (`read?_eq_some_iff`).
-/

namespace BytecodeParity.Numeral

variable {base bound n m : Nat} {c : Char} {t : Text}

/-- The number that digits denote behind digits that denote `n`, the first one counting most. A
character that is no digit counts for nothing. -/
def valueAfter (base : Nat) (n : Nat) (t : Text) : Nat :=
  t.foldl (fun n c => n * base + (digitValue? base c).getD 0) n

/-- The number that digits denote. -/
def value (base : Nat) (t : Text) : Nat := valueAfter base 0 t

theorem valueAfter_cons :
    valueAfter base n (c :: t) =
      valueAfter base (n * base + (digitValue? base c).getD 0) t := rfl

/-- Digits add to what is in front of them. -/
theorem le_valueAfter (hbase : 0 < base) : n ≤ valueAfter base n t := by
  induction t generalizing n with
  | nil => exact Nat.le_refl n
  | cons c t ih =>
    rw [valueAfter_cons]
    calc n ≤ n * base := Nat.le_mul_of_pos_right n hbase
      _ ≤ n * base + (digitValue? base c).getD 0 := Nat.le_add_right _ _
      _ ≤ _ := ih

/-- **Digits are read to the end unless the bound is reached.** -/
theorem readDigits_of_digits (hbase : 0 < base) (ht : ∀ c ∈ t, (digitValue? base c).isSome)
    (hn : n < bound) :
    readDigits base bound n t =
      if valueAfter base n t < bound then .ok (valueAfter base n t) else .error .tooLarge := by
  induction t generalizing n with
  | nil =>
    rw [readDigits]
    exact (if_pos hn).symm
  | cons c t ih =>
    obtain ⟨d, hd⟩ := Option.isSome_iff_exists.mp (ht c List.mem_cons_self)
    rw [readDigits, valueAfter_cons, hd, Option.getD_some]
    dsimp only
    by_cases hlt : n * base + d < bound
    · rw [if_pos hlt]
      exact ih (fun e he => ht e (List.mem_cons_of_mem c he)) hlt
    · -- The excess stays, whatever digits follow.
      have hexcess : ¬ valueAfter base (n * base + d) t < bound := by
        intro h
        exact hlt (Nat.lt_of_le_of_lt (le_valueAfter hbase) h)
      rw [if_neg hlt, if_neg hexcess]

/-- What is read to the end is digits. -/
theorem digits_of_readDigits (h : readDigits base bound n t = .ok m) :
    ∀ c ∈ t, (digitValue? base c).isSome := by
  induction t generalizing n with
  | nil =>
    intro c hc
    cases hc
  | cons c t ih =>
    unfold readDigits at h
    cases hd : digitValue? base c with
    | none => simp [hd] at h
    | some d =>
      simp only [hd] at h
      split at h
      · exact List.forall_mem_cons.mpr ⟨by simp [hd], ih h⟩
      · cases h

theorem read?_iff_ok : read? base bound t = some m ↔ read base bound t = .ok m :=
  toOption_eq_some_iff

/-- A plus sign is no digit. -/
theorem digitValue?_plus (base : Nat) : digitValue? base '+' = none := rfl

/-- **What digits are read as.** -/
theorem read_of_digits (hbase : 0 < base) (hbound : 0 < bound) (hne : t ≠ [])
    (ht : ∀ c ∈ t, (digitValue? base c).isSome) :
    read base bound t = if value base t < bound then .ok (value base t) else .error .tooLarge := by
  have hsign : ∀ s, t ≠ '+' :: s := by
    rintro s rfl
    have hplus := ht '+' List.mem_cons_self
    rw [digitValue?_plus] at hplus
    cases hplus
  have hread : read base bound t = readDigits base bound 0 t := by
    unfold read
    split
    · exact absurd rfl hne
    · exact absurd rfl (hsign [])
    next s _ => exact absurd rfl (hsign s)
    · rfl
  rw [hread, readDigits_of_digits hbase ht hbound, value]

theorem read?_of_digits (hbase : 0 < base) (hbound : 0 < bound) (hne : t ≠ [])
    (ht : ∀ c ∈ t, (digitValue? base c).isSome) :
    read? base bound t = if value base t < bound then some (value base t) else none := by
  rw [read?, read_of_digits hbase hbound hne ht]
  split
  · rfl
  · rfl

/-- **What reads as a number**: digits that denote it, behind a plus sign or without one. -/
theorem read?_eq_some_iff (hbase : 0 < base) (hbound : 0 < bound) :
    read? base bound t = some m ↔
      ∃ digits, (t = digits ∨ t = '+' :: digits) ∧ digits ≠ [] ∧
        (∀ c ∈ digits, (digitValue? base c).isSome) ∧ value base digits = m ∧ m < bound := by
  -- Behind the sign, if there is one, everything is left to the digits.
  have hdigits : ∀ s : Text, readDigits base bound 0 s = .ok m ↔
      (∀ c ∈ s, (digitValue? base c).isSome) ∧ value base s = m ∧ m < bound := by
    intro s
    constructor
    · intro h
      have hs := digits_of_readDigits h
      rw [readDigits_of_digits hbase hs hbound] at h
      split at h
      next hlt =>
        cases h
        exact ⟨hs, rfl, hlt⟩
      · cases h
    · rintro ⟨hs, rfl, hlt⟩
      rw [readDigits_of_digits hbase hs hbound]
      exact if_pos hlt
  rw [read?_iff_ok]
  constructor
  · intro h
    unfold read at h
    split at h
    · cases h
    · cases h
    next s hs => exact ⟨s, .inr rfl, hs, (hdigits s).mp h⟩
    next s hnil _ _ => exact ⟨t, .inl rfl, hnil, (hdigits t).mp h⟩
  · rintro ⟨digits, rfl | rfl, hne, h⟩
    · rw [← read?_iff_ok, read?_of_digits hbase hbound hne h.1, h.2.1]
      exact if_pos h.2.2
    · unfold read
      cases digits with
      | nil => exact absurd rfl hne
      | cons c digits => exact (hdigits (c :: digits)).mpr h

/-! ## Letters and numerals -/

/-- A letter counts the same in either case. -/
theorem digitValue?_toLower (base : Nat) (c : Char) :
    digitValue? base c.toLower = digitValue? base c := by
  by_cases h : 'A'.val ≤ c.val ∧ c.val ≤ 'Z'.val
  · have hlower : c.toLower.toNat = c.toNat + 32 := by
      have hval : c.toLower.val = c.val + 32 := congrArg Char.val (dif_pos h)
      have hle : c.val.toNat ≤ 90 := h.2
      rw [Char.toNat, hval, UInt32.toNat_add, Char.toNat]
      exact Nat.mod_eq_of_lt (Nat.lt_of_le_of_lt (Nat.add_le_add_right hle 32) (by decide))
    have hrange : 65 ≤ c.toNat ∧ c.toNat ≤ 90 := h
    simp only [digitValue?, hlower, Char.reduceToNat]
    rw [if_neg (by omega), if_pos (by omega), if_neg (by omega), if_neg (by omega),
      if_pos (by omega), show c.toNat + 32 - 97 = c.toNat - 65 by omega]
  · have hsame : c.toLower = c := dif_neg h
    rw [hsame]

theorem value_lower (base : Nat) (t : Text) : value base (Text.lower t) = value base t := by
  rw [value, value, valueAfter, valueAfter, Text.lower, List.foldl_map]
  simp only [digitValue?_toLower]

theorem digitValue?_digitChar {d : Nat} (h : d < 16) : digitValue? 16 d.digitChar = some d := by
  revert h d
  decide

/-- The numeral of a number is digits that denote it. -/
theorem toDigits_denotes (n : Nat) :
    (∀ c ∈ Nat.toDigits 16 n, (digitValue? 16 c).isSome) ∧ value 16 (Nat.toDigits 16 n) = n := by
  induction n using Nat.strongRecOn with
  | ind n ih =>
    by_cases hlt : n < 16
    · rw [Nat.toDigits_of_lt_base hlt]
      simp [value, valueAfter, digitValue?_digitChar hlt]
    · have hmod : n % 16 < 16 := Nat.mod_lt n (by decide)
      obtain ⟨hdigits, hvalue⟩ := ih (n / 16) (Nat.div_lt_self (by omega) (by decide))
      rw [Nat.toDigits_of_base_le (by decide) (Nat.le_of_not_lt hlt)]
      constructor
      · intro c hc
        rcases List.mem_append.mp hc with hc | hc
        · exact hdigits c hc
        · obtain rfl := List.mem_singleton.mp hc
          simp [digitValue?_digitChar hmod]
      · rw [value, valueAfter, List.foldl_append]
        change valueAfter 16 (value 16 (Nat.toDigits 16 (n / 16))) [(n % 16).digitChar] = n
        rw [hvalue]
        simp only [valueAfter, List.foldl_cons, List.foldl_nil, digitValue?_digitChar hmod,
          Option.getD_some]
        omega

end BytecodeParity.Numeral
