import BytecodeParity.Report.Layout
import Mathlib.Data.List.Basic
/-!
# Sizes in groups of three

Whether a comma is set is decided from the front, by how many digits are still to come. Where the
text is cut at its commas this comes out at every cut: **the groups behind the first one have three
digits, and the first one has what is left over** (`exists_splitOn_groupThousands`). Without its
commas the text is the number in decimal digits again (`filter_groupThousands`), so that no two
sizes are printed alike.
-/

namespace BytecodeParity.Report

variable {n : Nat} {c : Char} {ds : Text}

/-- Digits in groups, as a text. -/
structure Grouped (digits t : Text) : Prop where
  /-- Without the commas there are the digits. -/
  without_commas : t.filter (· ≠ ',') = digits
  head_ne : t.head? ≠ some ','
  last_ne : t.getLast? ≠ some ','
  groups : ∃ first others, t.splitOn ',' = first :: others ∧ (first :: others).flatten = digits ∧
    1 ≤ first.length ∧ first.length ≤ 3 ∧ ∀ g ∈ others, g.length = 3

theorem ne_comma_of_mem_toDigits (h : c ∈ Nat.toDigits 10 n) : c ≠ ',' := by
  have hdigit := Nat.isDigit_of_mem_toDigits (by decide) (by decide) h
  rintro rfl
  simp at hdigit

/-- What stands between the commas is what is left without them. -/
theorem flatten_splitOn (t : Text) : (t.splitOn ',').flatten = t.filter (· ≠ ',') := by
  induction t with
  | nil => simp
  | cons c t ih =>
    obtain ⟨first, others, hsplit⟩ := List.exists_cons_of_ne_nil (List.splitOn_ne_nil ',' t)
    rw [hsplit] at ih
    by_cases hc : c = ','
    · simpa [List.splitOn_cons_eq_if_modifyHead, hc, hsplit] using ih
    · simpa [List.splitOn_cons_eq_if_modifyHead, hc, hsplit] using ih

/-! ## Setting commas -/

theorem head?_groupThousands : (groupThousands ds).head? = ds.head? := by
  cases ds with
  | nil => rfl
  | cons d ds =>
    unfold groupThousands
    split <;> rfl

theorem groupThousands_ne_nil (h : ds ≠ []) : groupThousands ds ≠ [] := by
  intro hnil
  apply h
  rw [← List.head?_eq_none_iff, ← head?_groupThousands, hnil]
  rfl

theorem getLast?_groupThousands : (groupThousands ds).getLast? = ds.getLast? := by
  induction ds with
  | nil => rfl
  | cons d ds ih =>
    unfold groupThousands
    by_cases hnil : ds = []
    · simp [hnil, groupThousands]
    · have hne := groupThousands_ne_nil hnil
      split <;> simp [List.getLast?_cons_of_ne_nil, hne, hnil, ih]

/-- **Commas are all that is added.** -/
theorem filter_groupThousands (h : ∀ c ∈ ds, c ≠ ',') :
    (groupThousands ds).filter (· ≠ ',') = ds := by
  induction ds with
  | nil => rfl
  | cons d ds ih =>
    obtain ⟨hd, hds⟩ := List.forall_mem_cons.mp h
    unfold groupThousands
    split
    · rw [List.filter_cons_of_pos (by simpa using hd), List.filter_cons_of_neg (by simp), ih hds]
    · rw [List.filter_cons_of_pos (by simpa using hd), ih hds]

/-- How many digits stand in the first group. -/
def firstGroup (digits : Nat) : Nat := (digits - 1) % 3 + 1

/-- **The groups from the front**: what is left over, and then three digits each. -/
theorem exists_splitOn_groupThousands (h : ∀ c ∈ ds, c ≠ ',') (hne : ds ≠ []) :
    ∃ first others, (groupThousands ds).splitOn ',' = first :: others ∧
      first.length = firstGroup ds.length ∧ ∀ g ∈ others, g.length = 3 := by
  induction ds with
  | nil => exact absurd rfl hne
  | cons d ds ih =>
    obtain ⟨hd, hds⟩ := List.forall_mem_cons.mp h
    unfold groupThousands
    by_cases hnil : ds = []
    · subst hnil
      refine ⟨[d], [], ?_, rfl, by simp⟩
      simp [groupThousands, List.splitOn_cons_eq_if_modifyHead, hd]
    obtain ⟨first, others, hsplit, hfirst, hothers⟩ := ih hds hnil
    have hpos : 0 < ds.length := List.length_pos_iff.mpr hnil
    rw [firstGroup] at hfirst
    split
    next hcomma =>
      -- The digits to come are whole groups, so the first of these has three digits as well.
      have hwhole : ds.length % 3 = 0 := by
        simp at hcomma
        exact hcomma.1
      refine ⟨[d], first :: others, ?_, ?_, ?_⟩
      · simp [List.splitOn_cons_eq_if_modifyHead, hd, hsplit]
      · simp [firstGroup, hwhole]
      · intro g hg
        rcases List.mem_cons.mp hg with rfl | hg
        · omega
        · exact hothers g hg
    next hcomma =>
      have hpart : ds.length % 3 ≠ 0 := by
        intro hwhole
        simp [hwhole, hnil] at hcomma
      refine ⟨d :: first, others, ?_, ?_, hothers⟩
      · simp [List.splitOn_cons_eq_if_modifyHead, hd, hsplit]
      · simp only [firstGroup, List.length_cons]
        omega

/-! ## Sizes -/

theorem toList_formatSize (n : Nat) :
    (formatSize n).toList = groupThousands (toString n).toList := by
  simp [formatSize]

theorem grouped_formatSize (n : Nat) : Grouped (toString n).toList (formatSize n).toList := by
  have hplain : ∀ c ∈ (toString n).toList, c ≠ ',' := by
    intro c hc
    rw [Nat.toString_eq_repr, Nat.toList_repr] at hc
    exact ne_comma_of_mem_toDigits hc
  have hne : (toString n).toList ≠ [] := by
    rw [Nat.toString_eq_repr, Nat.toList_repr]
    exact Nat.toDigits_ne_nil
  rw [toList_formatSize]
  refine ⟨filter_groupThousands hplain, ?_, ?_, ?_⟩
  · rw [head?_groupThousands]
    intro h
    exact hplain _ (List.mem_of_mem_head? h) rfl
  · rw [getLast?_groupThousands]
    intro h
    exact hplain _ (List.mem_of_getLast? h) rfl
  · obtain ⟨first, others, hsplit, hfirst, hothers⟩ := exists_splitOn_groupThousands hplain hne
    have hflat : (first :: others).flatten = (toString n).toList := by
      rw [← hsplit, flatten_splitOn, filter_groupThousands hplain]
    rw [firstGroup] at hfirst
    exact ⟨first, others, hsplit, hflat, by omega, by omega, hothers⟩

/-- **A size in print is its digits in groups of three**, and tells the size. -/
theorem formatSize_faithful :
    (∀ n : Nat, Grouped (toString n).toList (formatSize n).toList) ∧
      Function.Injective formatSize := by
  refine ⟨grouped_formatSize, ?_⟩
  intro m n h
  have hdigits : Nat.toDigits 10 m = Nat.toDigits 10 n := by
    have hm := (grouped_formatSize m).without_commas
    have hn := (grouped_formatSize n).without_commas
    rw [h] at hm
    simpa using hm.symm.trans hn
  calc
    m = Nat.ofDigitChars 10 (Nat.toDigits 10 m) 0 := Nat.ofDigitChars_ten_toDigits.symm
    _ = Nat.ofDigitChars 10 (Nat.toDigits 10 n) 0 := by rw [hdigits]
    _ = n := Nat.ofDigitChars_ten_toDigits

/-- The first group may be short. -/
example : formatSize 1234567 = "1,234,567" := by decide

end BytecodeParity.Report
