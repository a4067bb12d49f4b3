import BytecodeParity.Code.Comparison
import BytecodeParity.Proofs.Hex.Digits
import BytecodeParity.Proofs.Text.Chunks
import BytecodeParity.Proofs.Text.Scan
/-!
# A comparison by position

`compare` turns both codes into lists of what their bytes show, sets the lists side by side and
numbers what it finds. Three recursions run into each other there, over bytes, over the longer of
two lists and over the numbering. This file takes each apart into an access by position:

* `differences_align`: the differences of two lists are found by asking `difference?` at every
  position below the longer length, a missing entry counting as `missingByte`;
* `getD_pairs`: on text of one byte a character, what byte `p` shows is the characters `2 * p` and
  `2 * p + 1`, which is `byteAt`.

With both, comparing two painted bodies of digits is `compare_paint`: the bytes that differ and of
which neither side has a painted character, by ascending position. `exposed` is that list, and it
speaks of the bodies and the painted sets only.
-/

namespace BytecodeParity

namespace Code

/-! ## Two lists side by side -/

theorem getElem?_align (ps qs : List Text) (i : Nat) :
    (align ps qs)[i]? =
      if i < max ps.length qs.length then
        some (ps.getD i missingByte, qs.getD i missingByte)
      else none := by
  induction ps generalizing qs i with
  | nil =>
    rw [align, List.getElem?_map]
    rcases Nat.lt_or_ge i qs.length with h | h
    · simp [h]
    · simp [Nat.not_lt.mpr h]
  | cons p ps ih =>
    cases qs with
    | nil =>
      cases i with
      | zero => simp [align]
      | succ i => simp [align, ih]
    | cons q qs =>
      cases i with
      | zero => simp [align]
      | succ i => simp [align, ih]

/-- **Differences are found position by position.** -/
theorem differences_align (ps qs : List Text) :
    differences (align ps qs) =
      (List.range (max ps.length qs.length)).filterMap fun i =>
        difference? i (ps.getD i missingByte) (qs.getD i missingByte) := by
  have hzip : (align ps qs).zipIdx =
      (List.range (max ps.length qs.length)).map fun i =>
        ((ps.getD i missingByte, qs.getD i missingByte), i) := by
    refine List.ext_getElem? fun i => ?_
    rw [List.getElem?_zipIdx, getElem?_align, List.getElem?_map]
    rcases Nat.lt_or_ge i (max ps.length qs.length) with h | h
    · rw [if_pos h, List.getElem?_range h]
      simp
    · rw [if_neg (by omega), List.getElem?_eq_none (by rw [List.length_range]; omega)]
      rfl
  rw [differences, hzip, List.filterMap_map]
  rfl

/-- Two codes behind their marks are compared body against body. -/
theorem compare_marked (d r : Text) :
    compare ('0' :: 'x' :: d) ('0' :: 'x' :: r) =
      let found := differences (align (Text.pairs (Text.utf8 d)) (Text.pairs (Text.utf8 r)))
      { identical := found.isEmpty
        sizeDelta := Int.tdiv (((Text.utf8 d).length : Int) - (Text.utf8 r).length) 2
        differences := found } :=
  rfl

/-! ## Bytes by position -/

/-- The byte of a body at a position, as two characters, or what stands for it behind the end. -/
def byteAt (t : Text) (p : Nat) : Text :=
  match t[2 * p]?, t[2 * p + 1]? with
  | some a, some b => [a, b]
  | _, _ => missingByte

theorem length_pairs_ascii {t : Text} (h : Text.Ascii t) (heven : t.length % 2 = 0) :
    (Text.pairs (Text.utf8 t)).length = t.length / 2 := by
  rw [Text.length_pairs, Text.length_utf8 h]
  omega

/-- **What a byte of digits shows is its two characters.** -/
theorem getD_pairs {t : Text} (h : Text.Ascii t) (heven : t.length % 2 = 0) (p : Nat) :
    (Text.pairs (Text.utf8 t)).getD p missingByte = byteAt t p := by
  rw [List.getD_eq_getElem?_getD, Text.getElem?_pairs, Text.showChunk_ascii h]
  -- The length is even, so a byte that is begun is there as a whole.
  rcases Nat.lt_or_ge (2 * p + 1) t.length with hlt | hge
  · have hne : Text.chunk (Text.utf8 t) p ≠ [] := by
      rw [ne_eq, Text.chunk_eq_nil_iff, Text.length_utf8 h]
      omega
    have hdrop : t.drop (2 * p) = t[2 * p] :: t[2 * p + 1] :: t.drop (2 * p + 2) := by
      rw [List.drop_eq_getElem_cons (by omega), List.drop_eq_getElem_cons hlt]
    rw [if_neg hne, hdrop, byteAt, List.getElem?_eq_getElem (by omega),
      List.getElem?_eq_getElem hlt]
    rfl
  · have hnil : Text.chunk (Text.utf8 t) p = [] := by
      rw [Text.chunk_eq_nil_iff, Text.length_utf8 h]
      omega
    rw [if_pos hnil, byteAt, List.getElem?_eq_none (l := t) hge]
    cases t[2 * p]? <;> rfl

open Hex Text

/-! ## Painted bodies -/

/-- Whether a set holds a character of the byte at a position. -/
def touches (on : Nat → Bool) (p : Nat) : Bool := on (2 * p) || on (2 * p + 1)

/-- The bytes at which two bodies differ and neither of two sets, one for each body, holds a
character. -/
def exposed (d r : Text) (onD onR : Nat → Bool) : List Difference :=
  ((List.range (max (d.length / 2) (r.length / 2))).filter fun p =>
    byteAt d p != byteAt r p && !touches onD p && !touches onR p).map
      fun p => ⟨p, byteAt d p, byteAt r p⟩

variable {d r t : Text} {on onD onR : Nat → Bool}

theorem ascii_paint (ht : Digits t) : Ascii (paint maskChar on t) := by
  intro c hc
  obtain ⟨i, hi⟩ := List.getElem?_of_mem hc
  rw [getElem?_paint, Option.map_eq_some_iff] at hi
  obtain ⟨a, ha, rfl⟩ := hi
  split
  · decide
  · exact ht.ascii a (List.mem_of_getElem? ha)

/-- A byte of a painted body is masked when one of its characters is painted. -/
theorem isMasked_byteAt_paint (ht : WholeBytes t) (hon : ∀ i, on i = true → i < t.length)
    (p : Nat) : isMasked (byteAt (paint maskChar on t) p) = touches on p := by
  have heven := ht.even
  rcases Nat.lt_or_ge (2 * p + 1) t.length with hlt | hge
  · have ha : t[2 * p]? = some t[2 * p] := List.getElem?_eq_getElem (by omega)
    have hb : t[2 * p + 1]? = some t[2 * p + 1] := List.getElem?_eq_getElem hlt
    have hclear : ∀ i (hi : i < t.length), (t[i] == maskChar) = false := fun i hi =>
      beq_eq_false_iff_ne.mpr
        (ne_of_digit (ht.digits _ (List.getElem_mem hi)) (by decide))
    simp only [byteAt, getElem?_paint, ha, hb, Option.map_some, isMasked, touches, List.any_cons,
      List.any_nil, Bool.or_false]
    cases on (2 * p) <;> cases on (2 * p + 1) <;>
      simp [hclear _ hlt, hclear (2 * p) (by omega)]
  · -- Behind the end there is nothing to paint.
    have hoff : ∀ i, t.length ≤ i → on i = false := fun i hi =>
      Bool.eq_false_iff.mpr fun h => absurd (hon i h) (by omega)
    have hb : t[2 * p + 1]? = none := List.getElem?_eq_none hge
    have ha : t[2 * p]? = none := List.getElem?_eq_none (by omega)
    rw [touches, hoff (2 * p) (by omega), hoff (2 * p + 1) hge]
    simp only [byteAt, getElem?_paint, ha, hb, Option.map_none]
    decide

theorem byteAt_paint_of_not {p : Nat} (h : touches on p = false) :
    byteAt (paint maskChar on t) p = byteAt t p := by
  rw [touches, Bool.or_eq_false_iff] at h
  simp [byteAt, h.1, h.2]

/-- The difference at one position of two painted bodies. -/
theorem difference?_paint (hd : WholeBytes d) (hr : WholeBytes r)
    (hD : ∀ i, onD i = true → i < d.length) (hR : ∀ i, onR i = true → i < r.length) (p : Nat) :
    difference? p (byteAt (paint maskChar onD d) p) (byteAt (paint maskChar onR r) p) =
      if byteAt d p != byteAt r p && !touches onD p && !touches onR p then
        some ⟨p, byteAt d p, byteAt r p⟩
      else none := by
  rw [difference?, isMasked_byteAt_paint hd hD, isMasked_byteAt_paint hr hR]
  cases htD : touches onD p with
  | true => simp
  | false =>
    cases htR : touches onR p with
    | true => simp
    | false =>
      rw [byteAt_paint_of_not htD, byteAt_paint_of_not htR]
      by_cases h : byteAt d p = byteAt r p <;> simp [h]

/-- **Comparing painted bodies reports what the paint leaves exposed.** -/
theorem compare_paint (hd : WholeBytes d) (hr : WholeBytes r)
    (hD : ∀ i, onD i = true → i < d.length) (hR : ∀ i, onR i = true → i < r.length) :
    compare ('0' :: 'x' :: paint maskChar onD d) ('0' :: 'x' :: paint maskChar onR r) =
      { identical := (exposed d r onD onR).isEmpty
        sizeDelta := (d.length / 2 : Nat) - (r.length / 2 : Nat)
        differences := exposed d r onD onR } := by
  have hAd : Ascii (paint maskChar onD d) := ascii_paint hd.digits
  have hAr : Ascii (paint maskChar onR r) := ascii_paint hr.digits
  have hEd : (paint maskChar onD d).length % 2 = 0 := by rw [length_paint]; exact hd.even
  have hEr : (paint maskChar onR r).length % 2 = 0 := by rw [length_paint]; exact hr.even
  have hfound : differences (align (pairs (utf8 (paint maskChar onD d)))
      (pairs (utf8 (paint maskChar onR r)))) = exposed d r onD onR := by
    rw [differences_align, length_pairs_ascii hAd hEd, length_pairs_ascii hAr hEr, length_paint,
      length_paint, exposed, ← List.filterMap_eq_map, List.filterMap_filter]
    refine List.filterMap_congr fun p _ => ?_
    rw [getD_pairs hAd hEd, getD_pairs hAr hEr, difference?_paint hd hr hD hR]
    rfl
  have hsize : Int.tdiv (((utf8 (paint maskChar onD d)).length : Int) -
      (utf8 (paint maskChar onR r)).length) 2 = (d.length / 2 : Nat) - (r.length / 2 : Nat) := by
    have hed := hd.even
    have her := hr.even
    -- Both sizes are even, so cutting towards zero cuts nothing.
    have hdouble : (d.length : Int) - r.length =
        2 * ((d.length / 2 : Nat) - (r.length / 2 : Nat)) := by omega
    rw [length_utf8 hAd, length_utf8 hAr, length_paint, length_paint, hdouble,
      Int.mul_tdiv_cancel_left _ (by decide)]
  simp only [compare_marked, hfound, hsize]

end Code

end BytecodeParity
