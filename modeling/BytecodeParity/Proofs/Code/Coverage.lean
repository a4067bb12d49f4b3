import BytecodeParity.Proofs.Code.Passes
import Mathlib.Data.List.Induction
/-!
# Which characters a list of values masks

`mask` rewrites a code once per value, and each pass scans a text in which the passes before it
have already left their mark. Read as a program that is a chain of searches in ever changing
texts. The mask character is no digit, though, so a value of digits is found in the rewritten text
exactly where it stands in the code itself with nothing masked yet (`occursAt_paint`), and the whole
chain can be told over the one text it started from:

    mask values code  =  small-letter code, painted over  coverage values  of it

`coverage` is the second definition. It names positions only: each value in turn covers the
occurrences that a scan from left to right chooses among those free of covered characters. No text
is rewritten in it.

Two facts about coverage are enough for everything that compares masked codes. It consists of
occurrences (`coverage_sound`), and an occurrence that no other one overlaps is in it whole
(`Isolated.coverage_eq_true`).
-/

namespace BytecodeParity.Code

open Hex Text

/-! ## Coverage -/

/-- The positions covered after one more value: those covered before, and those of the occurrences
that a scan for the value chooses where nothing is covered. -/
def cover (t : Text) (covered : Nat → Bool) (v : Text) : Nat → Bool :=
  let free i := occursAt v t i && (List.range v.length).all fun k => !covered (i + k)
  fun i => covered i || spans (select free v.length t.length) v.length i

/-- The positions of a text that values cover, taken in the order of the list and in small
letters. -/
def coverage (values : List Text) (t : Text) : Nat → Bool :=
  values.foldl (fun covered v => cover t covered (Text.lower v)) fun _ => false

variable {t v : Text} {values : List Text} {covered : Nat → Bool}

theorem cover_of_covered {i : Nat} (h : covered i = true) : cover t covered v i = true := by
  simp [cover, h]

/-- A position is covered by now if it was before or lies in an occurrence that was free. -/
theorem cover_iff {i : Nat} :
    cover t covered v i = true ↔ covered i = true ∨
      ∃ j ∈ select (fun i => occursAt v t i &&
          (List.range v.length).all fun k => !covered (i + k)) v.length t.length,
        j ≤ i ∧ i < j + v.length := by
  rw [cover, Bool.or_eq_true, spans_iff]

theorem foldl_cover_of_covered {i : Nat} (h : covered i = true) :
    values.foldl (fun covered v => cover t covered (Text.lower v)) covered i = true := by
  induction values generalizing covered with
  | nil => exact h
  | cons v values ih => exact ih (cover_of_covered h)

theorem coverage_concat :
    coverage (values ++ [v]) t = cover t (coverage values t) (Text.lower v) := by
  rw [coverage, List.foldl_concat]
  rfl

/-! ## Masking is painting -/

/-- One value, on a text that is painted already. -/
theorem maskValue_paint (hne : v ≠ []) (hv : Digits v) :
    maskValue (paint maskChar covered t) v =
      paint maskChar (cover t covered (Text.lower v)) t := by
  rw [maskValue, hv.lower.byteSize, replaceAll_eq_paint (lower_ne_nil hne), paint_paint,
    length_paint]
  -- The mask character is no digit, so the value stands in the painted text where it is free.
  have hfree : occursAt (Text.lower v) (paint maskChar covered t) =
      fun i => occursAt (Text.lower v) t i &&
        (List.range (Text.lower v).length).all fun k => !covered (i + k) :=
    funext fun i => occursAt_paint (hv.lower.notMem (by decide)) i
  rw [hfree]
  rfl

theorem foldl_maskValue_paint (hv : ∀ v ∈ values, v ≠ [] ∧ Digits v) :
    values.foldl maskValue (paint maskChar covered t) =
      paint maskChar (values.foldl (fun covered v => cover t covered (Text.lower v)) covered)
        t := by
  induction values generalizing covered with
  | nil => rfl
  | cons v values ih =>
    obtain ⟨hne, hdigits⟩ := hv v List.mem_cons_self
    rw [List.foldl_cons, List.foldl_cons, maskValue_paint hne hdigits]
    exact ih fun w hw => hv w (List.mem_cons_of_mem v hw)

/-- **Masking paints the coverage of the values.** -/
theorem mask_eq_paint (hv : ∀ v ∈ values, v ≠ [] ∧ Digits v) (code : Text) :
    mask values code = paint maskChar (coverage values (Text.lower code)) (Text.lower code) := by
  rw [mask, coverage, ← foldl_maskValue_paint hv, paint_none]

/-- The mark of a code is never masked by values of a byte or more. -/
theorem mask_marked (hv : ∀ v ∈ values, Value v) (t : Text) :
    mask values ('0' :: 'x' :: t) = '0' :: 'x' :: mask values t := by
  have hfold : ∀ t : Text, values.foldl maskValue ('0' :: 'x' :: t) =
      '0' :: 'x' :: values.foldl maskValue t := by
    induction values with
    | nil => exact fun t => rfl
    | cons v values ih =>
      intro t
      rw [List.foldl_cons, List.foldl_cons, maskValue,
        replaceAll_marked (hv v List.mem_cons_self).lower,
        ih fun w hw => hv w (List.mem_cons_of_mem v hw)]
      rfl
  exact hfold (Text.lower t)

/-! ## Coverage consists of occurrences -/

/-- **A covered position lies in an occurrence of one of the values, all of which is covered.** -/
theorem coverage_sound {i : Nat} (h : coverage values t i = true) :
    ∃ v ∈ values, ∃ b, occursAt (Text.lower v) t b = true ∧ b ≤ i ∧ i < b + v.length ∧
      ∀ k < v.length, coverage values t (b + k) = true := by
  -- From the back of the list: the last value covers last and takes nothing away.
  induction values using List.reverseRecOn generalizing i with
  | nil => exact absurd h Bool.false_ne_true
  | append_singleton values v ih =>
    rw [coverage_concat] at h ⊢
    rcases cover_iff.mp h with hold | ⟨j, hj, hji, hij⟩
    · obtain ⟨w, hw, b, hocc, hbi, hib, hall⟩ := ih hold
      exact ⟨w, List.mem_append_left [v] hw, b, hocc, hbi, hib,
        fun k hk => cover_of_covered (hall k hk)⟩
    · have hhit := (mem_select.mp hj).2.1
      rw [Bool.and_eq_true] at hhit
      rw [length_lower] at hij
      refine ⟨v, by simp, j, hhit.1, hji, hij, fun k hk => cover_iff.mpr (Or.inr ?_)⟩
      exact ⟨j, hj, by omega, by rw [length_lower]; omega⟩

/-- Only positions of the text are covered. -/
theorem lt_length_of_coverage (hv : ∀ v ∈ values, v ≠ []) {i : Nat}
    (h : coverage values t i = true) : i < t.length := by
  obtain ⟨v, hmem, b, hocc, -, hib, -⟩ := coverage_sound h
  have hle := le_length_of_occursAt (lower_ne_nil (hv v hmem)) hocc
  rw [length_lower] at hle
  omega

/-! ## Isolated occurrences are covered -/

/-- An occurrence of a value in a text that no other occurrence of a value of the list overlaps.
Values that differ in the case of their letters have their occurrences in common. -/
structure Isolated (values : List Text) (t v : Text) (a : Nat) : Prop where
  mem : v ∈ values
  occurs : occursAt (Text.lower v) t a = true
  alone : ∀ w ∈ values, ∀ b, occursAt (Text.lower w) t b = true →
    b < a + v.length → a < b + w.length → b = a ∧ w.length = v.length

instance (values : List Text) (t v : Text) (a : Nat) : Decidable (Isolated values t v a) :=
  decidable_of_iff
    (v ∈ values ∧ occursAt (Text.lower v) t a = true ∧
      ∀ w ∈ values, ∀ b < a + v.length, occursAt (Text.lower w) t b = true →
        a < b + w.length → b = a ∧ w.length = v.length)
    ⟨fun h => ⟨h.1, h.2.1, fun w hw b hocc hb => h.2.2 w hw b hb hocc⟩,
      fun h => ⟨h.mem, h.occurs, fun w hw b hb hocc => h.alone w hw b hocc hb⟩⟩

/-- What other values cover of an isolated occurrence they cover as a whole. -/
theorem Isolated.whole_of_touched {a k : Nat} {some : List Text} (h : Isolated values t v a)
    (hsub : ∀ w ∈ some, w ∈ values) (hk : k < v.length)
    (hc : coverage some t (a + k) = true) :
    ∀ k < v.length, coverage some t (a + k) = true := by
  obtain ⟨w, hw, b, hocc, hb, hab, hall⟩ := coverage_sound hc
  obtain ⟨rfl, hlen⟩ := h.alone w (hsub w hw) b hocc (by omega) (by omega)
  rw [← hlen]
  exact hall

/-- **An isolated occurrence is covered as a whole**, wherever its value stands in the list. -/
theorem Isolated.coverage_eq_true {a : Nat} (hne : v ≠ []) (h : Isolated values t v a) :
    ∀ k < v.length, coverage values t (a + k) = true := by
  -- What the values behind `v` do is irrelevant, since covered stays covered.
  obtain ⟨before, after, rfl⟩ := List.append_of_mem h.mem
  have hsub : ∀ w ∈ before, w ∈ before ++ v :: after := fun w hw => List.mem_append_left _ hw
  intro k hk
  rw [coverage, List.foldl_append, List.foldl_cons]
  refine foldl_cover_of_covered ?_
  change cover t (coverage before t) (Text.lower v) (a + k) = true
  by_cases htouched : ∃ k < v.length, coverage before t (a + k) = true
  · -- A value in front of `v` in the list got there first; it can only be the same text.
    obtain ⟨k₀, hk₀, hc⟩ := htouched
    exact cover_of_covered (h.whole_of_touched hsub hk₀ hc k hk)
  · -- Nothing of it is covered yet, and no earlier choice of the scan reaches into it.
    have hfree : ∀ k < v.length, coverage before t (a + k) = false := fun k hk =>
      Bool.eq_false_iff.mpr fun hc => htouched ⟨k, hk, hc⟩
    have hlen := le_length_of_occursAt (lower_ne_nil hne) h.occurs
    have hpos : 0 < v.length := List.length_pos_iff.mpr hne
    rw [length_lower] at hlen
    refine cover_iff.mpr (Or.inr ⟨a, mem_select.mpr ⟨by omega, ?_, fun j hj => ?_⟩,
      Nat.le_add_right a k, by rw [length_lower]; omega⟩)
    · simp only [h.occurs, length_lower, Bool.true_and, List.all_eq_true, List.mem_range,
        Bool.not_eq_true']
      exact hfree
    · obtain ⟨hja, hhit, -⟩ := mem_select.mp hj
      rw [Bool.and_eq_true] at hhit
      rw [length_lower]
      by_contra hreach
      have := (h.alone v h.mem j hhit.1 (by omega) (by omega)).1
      omega

end BytecodeParity.Code
