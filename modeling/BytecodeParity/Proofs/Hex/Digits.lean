import BytecodeParity.Hex
import BytecodeParity.Proofs.Text.Chunks
import Mathlib.Tactic.IntervalCases
/-!
# Texts of hexadecimal digits

A code that comes from a node or a compiler is digits behind an optional mark. For such texts most
of what makes `Text` delicate falls away: a digit is one byte, no digit is a blank, a dash or the
letter of the mark, and small letters stay digits.

All of it is read off `alphabet`, the twenty-two digits written out. `mem_alphabet` puts a digit
there and `of_digit` turns a check of the whole alphabet into a statement about every digit, so
that none of the facts below looks at a character code again.

Four forms of such texts have names, because everything that is proved of comparisons assumes one
of them: `WholeBytes` for a body, `Value` for what is searched in it, `Code` for a body of digits
behind a mark or without one, and `Stored` for a value as a registry keeps it.
-/

namespace BytecodeParity.Hex

/-- The characters of a text are checked one by one. There is a way to check all characters there
are, and it must not be the one that is found. -/
instance (priority := 2000) decidableForallMem {P : Char → Prop} [DecidablePred P] (t : Text) :
    Decidable (∀ c ∈ t, P c) :=
  List.decidableBAll P t

/-- Whether a character is a digit, of either case. -/
def isDigit (c : Char) : Bool := (Numeral.digitValue? 16 c).isSome

/-- A text of digits. -/
def Digits (t : Text) : Prop := ∀ c ∈ t, isDigit c = true

instance (t : Text) : Decidable (Digits t) := decidableForallMem t

/-- A text of digits, two to the byte. -/
structure WholeBytes (t : Text) : Prop where
  digits : Digits t
  even : t.length % 2 = 0

instance (t : Text) : Decidable (WholeBytes t) :=
  decidable_of_iff (Digits t ∧ t.length % 2 = 0) ⟨fun h => ⟨h.1, h.2⟩, fun h => ⟨h.1, h.2⟩⟩

/-- A value long enough to hold a byte. No such value stands across the mark of a code. -/
structure Value (v : Text) : Prop where
  digits : Digits v
  size : 2 ≤ v.length

instance (v : Text) : Decidable (Value v) :=
  decidable_of_iff (Digits v ∧ 2 ≤ v.length) ⟨fun h => ⟨h.1, h.2⟩, fun h => ⟨h.1, h.2⟩⟩

theorem Value.ne_nil {v : Text} (h : Value v) : v ≠ [] := by
  rintro rfl
  exact absurd h.size (by decide)

/-! ## The alphabet -/

/-- The digits. -/
def alphabet : List Char := "0123456789abcdefABCDEF".toList

theorem mem_alphabet {c : Char} (h : isDigit c = true) : c ∈ alphabet := by
  have hn : (48 ≤ c.toNat ∧ c.toNat ≤ 57) ∨ (97 ≤ c.toNat ∧ c.toNat ≤ 102) ∨
      (65 ≤ c.toNat ∧ c.toNat ≤ 70) := by
    simp only [isDigit, Numeral.digitValue?, Option.isSome_filter, Char.reduceToNat] at h
    split at h
    · omega
    · split at h
      · simp at h; omega
      · split at h
        · simp at h; omega
        · simp at h
  -- Twenty-two numbers are left, and each is the code of a digit.
  rw [← Char.ofNat_toNat c]
  generalize c.toNat = n at hn
  rcases hn with ⟨hl, hu⟩ | ⟨hl, hu⟩ | ⟨hl, hu⟩ <;> interval_cases n <;> decide

/-- What holds of the twenty-two digits holds of every digit. -/
theorem of_digit {P : Char → Prop} (hP : ∀ c ∈ alphabet, P c) {c : Char}
    (h : isDigit c = true) : P c :=
  hP c (mem_alphabet h)

theorem utf8Size_of_digit {c : Char} (h : isDigit c = true) : c.utf8Size = 1 :=
  of_digit (P := fun c => c.utf8Size = 1) (by decide) h

theorem toNat_lt_of_digit {c : Char} (h : isDigit c = true) : c.toNat < 0x80 :=
  of_digit (P := fun c => c.toNat < 0x80) (by decide) h

theorem isDigit_toLower {c : Char} (h : isDigit c = true) : isDigit c.toLower = true :=
  of_digit (P := fun c => isDigit c.toLower = true) (by decide) h

theorem not_blank_of_digit {c : Char} (h : isDigit c = true) : Text.isBlank c = false :=
  of_digit (P := fun c => Text.isBlank c = false) (by decide) h

theorem ne_of_digit {c d : Char} (h : isDigit c = true) (hd : isDigit d = false) : c ≠ d := by
  rintro rfl
  rw [h] at hd
  exact Bool.noConfusion hd

/-! ## Texts -/

theorem Digits.lower {t : Text} (h : Digits t) : Digits (Text.lower t) := by
  intro c hc
  obtain ⟨a, ha, rfl⟩ := List.mem_map.mp hc
  exact isDigit_toLower (h a ha)

theorem Digits.append {s t : Text} (hs : Digits s) (ht : Digits t) : Digits (s ++ t) := by
  intro c hc
  exact (List.mem_append.mp hc).elim (hs c) (ht c)

theorem Digits.sublist {s t : Text} (h : Digits t) (hs : s.Sublist t) : Digits s :=
  fun c hc => h c (hs.subset hc)

theorem Digits.notMem {t : Text} {d : Char} (h : Digits t) (hd : isDigit d = false) : d ∉ t :=
  fun hm => ne_of_digit (h d hm) hd rfl

@[simp] theorem length_lower (t : Text) : (Text.lower t).length = t.length := by
  rw [Text.lower, List.length_map]

theorem lower_take (n : Nat) (t : Text) : Text.lower (t.take n) = (Text.lower t).take n := by
  rw [Text.lower, List.map_take, Text.lower]

/-- Small letters stay as they are. -/
theorem toLower_toLower (c : Char) : c.toLower.toLower = c.toLower := by
  by_cases h : 'A'.val ≤ c.val ∧ c.val ≤ 'Z'.val
  · have hval : c.toLower.val = c.val + 32 := congrArg Char.val (dif_pos h)
    have hnot : ¬ ('A'.val ≤ c.toLower.val ∧ c.toLower.val ≤ 'Z'.val) := by
      rw [hval]
      simp only [UInt32.le_iff_toNat_le, UInt32.toNat_add] at h ⊢
      have hA : 'A'.val.toNat = 65 := rfl
      have hZ : 'Z'.val.toNat = 90 := rfl
      have h32 : (32 : UInt32).toNat = 32 := rfl
      omega
    exact dif_neg hnot
  · have hsame : c.toLower = c := dif_neg h
    rw [hsame, hsame]

@[simp] theorem lower_lower (t : Text) : Text.lower (Text.lower t) = Text.lower t := by
  rw [Text.lower, Text.lower, List.map_map]
  exact List.map_congr_left fun c _ => toLower_toLower c

theorem lower_ne_nil {t : Text} (h : t ≠ []) : Text.lower t ≠ [] :=
  fun hnil => h (List.map_eq_nil_iff.mp hnil)

theorem Digits.ascii {t : Text} (h : Digits t) : Text.Ascii t := fun c hc =>
  toNat_lt_of_digit (h c hc)

/-- The size of digits in bytes is their number. -/
theorem Digits.byteSize {t : Text} (h : Digits t) : Text.byteSize t = t.length := by
  induction t with
  | nil => rfl
  | cons c t ih =>
    rw [Text.byteSize_cons, List.length_cons, utf8Size_of_digit (h c List.mem_cons_self),
      ih fun d hd => h d (List.mem_cons_of_mem c hd), Nat.add_comm]

theorem WholeBytes.lower {t : Text} (h : WholeBytes t) : WholeBytes (Text.lower t) :=
  ⟨h.digits.lower, by rw [length_lower]; exact h.even⟩

theorem Value.lower {v : Text} (h : Value v) : Value (Text.lower v) :=
  ⟨h.digits.lower, by rw [length_lower]; exact h.size⟩

/-! ## Marks -/

/-- A code is its mark and its body. -/
theorem mark_append_body (code : Text) : (splitMark code).1 ++ body code = code := by
  unfold body splitMark
  split <;> rfl

/-- The mark, if there is one, has two characters, of which the second is no digit. -/
theorem mark_cases (code : Text) :
    (splitMark code).1 = [] ∨ (splitMark code).1 = ['0', 'x'] ∨
      (splitMark code).1 = ['0', 'X'] := by
  unfold splitMark
  split
  · exact Or.inr (Or.inl rfl)
  · exact Or.inr (Or.inr rfl)
  · exact Or.inl rfl

/-- Digits have no mark to take off. -/
theorem Digits.splitMark_eq {t : Text} (h : Digits t) : splitMark t = ([], t) := by
  unfold splitMark
  split
  · exact absurd (h 'x' (by simp)) (by decide)
  · exact absurd (h 'X' (by simp)) (by decide)
  · rfl

/-- Behind a mark, digits are the body. -/
theorem Digits.splitMark_append {t m : Text} (h : Digits t)
    (hm : m = [] ∨ m = ['0', 'x'] ∨ m = ['0', 'X']) : splitMark (m ++ t) = (m, t) := by
  rcases hm with rfl | rfl | rfl
  · exact h.splitMark_eq
  · rfl
  · rfl

/-- Behind any mark of a code, digits are the body. -/
theorem Digits.body_mark_append {t : Text} (h : Digits t) (code : Text) :
    body ((splitMark code).1 ++ t) = t :=
  congrArg Prod.snd (h.splitMark_append (mark_cases code))

theorem Digits.body_eq {t : Text} (h : Digits t) : body t = t := by
  rw [body, h.splitMark_eq]

/-! ## Codes and stored values -/

theorem trim_eq_self {t : Text} (h : ∀ c ∈ t, Text.isBlank c = false) : Text.trim t = t := by
  have hdrop : ∀ s : Text, (∀ c ∈ s, Text.isBlank c = false) → s.dropWhile Text.isBlank = s := by
    intro s hs
    cases s with
    | nil => rfl
    | cons c s => exact List.dropWhile_cons_of_neg (by simp [hs c List.mem_cons_self])
  rw [Text.trim, hdrop t h, hdrop t.reverse fun c hc => h c (List.mem_reverse.mp hc),
    List.reverse_reverse]

/-- A code that is not empty: digits, one or more, behind a mark or without one. -/
structure Code (t : Text) : Prop where
  digits : Digits (body t)
  nonempty : body t ≠ []

instance (t : Text) : Decidable (Code t) :=
  decidable_of_iff (Digits (body t) ∧ body t ≠ []) ⟨fun h => ⟨h.1, h.2⟩, fun h => ⟨h.1, h.2⟩⟩

/-- What holds of digits and of both letters of a mark holds of all that a code is written with. -/
theorem Code.forall_mem {P : Char → Prop} (hP : ∀ c ∈ 'x' :: 'X' :: alphabet, P c) {t : Text}
    (h : Code t) : ∀ c ∈ t, P c := by
  have hbody : ∀ c ∈ body t, P c := fun c hc =>
    hP c (List.mem_cons_of_mem _ (List.mem_cons_of_mem _ (mem_alphabet (h.digits c hc))))
  have hmark : ∀ c ∈ (splitMark t).1, P c := by
    intro c hc
    refine hP c ?_
    rcases mark_cases t with hm | hm | hm <;> rw [hm] at hc
    · cases hc
    · revert c
      decide
    · revert c
      decide
  intro c hc
  rw [← mark_append_body t, List.mem_append] at hc
  exact hc.elim (hmark c) (hbody c)

/-- No blanks surround a code. -/
theorem Code.trim_eq {t : Text} (h : Code t) : Text.trim t = t :=
  trim_eq_self (h.forall_mem (by decide))

/-- In raw form digits are small, and that is all. -/
theorem Digits.raw_eq {t : Text} (h : Digits t) : raw t = Text.lower t := by
  rw [raw, trim_eq_self fun c hc => not_blank_of_digit (h c hc), h.body_eq]

/-- Whole bytes in the form in which values are stored, one or more. -/
structure Stored (t : Text) : Prop extends WholeBytes t where
  small : Text.lower t = t
  ne_nil : t ≠ []

instance (t : Text) : Decidable (Stored t) :=
  decidable_of_iff (WholeBytes t ∧ Text.lower t = t ∧ t ≠ [])
    ⟨fun h => ⟨h.1, h.2.1, h.2.2⟩, fun h => ⟨h.toWholeBytes, h.small, h.ne_nil⟩⟩

theorem Stored.raw_eq {t : Text} (h : Stored t) : raw t = t :=
  h.digits.raw_eq.trans h.small

theorem Stored.value {t : Text} (h : Stored t) : Value t := by
  have hpos := List.length_pos_iff.mpr h.ne_nil
  have heven := h.even
  exact ⟨h.digits, by omega⟩

end BytecodeParity.Hex
