import BytecodeParity.Text.Replace
import Mathlib.Data.List.Basic
/-!
# Replacing as painting

`Text.replaceAll` walks a text, writes the new text where it meets the old one and then lets as
many characters pass as the old text has. That is the right program and the wrong form for a
proof: which characters it writes over depends on everything to the left of them, and the walk
keeps that dependence in how much is left to skip.

Here the same thing is said by position. `select` lists the positions a scan from left to right
settles on, among those that are hits; `spans` tells which positions the chosen occurrences hold;
`paint` writes one character over a set of positions. For a run of one character as long as the
old text, `replaceAll_eq_paint` equates the two:

    replaceAll v (v.length copies of c) t  =  t, painted with c where the scan for v chose

Two facts about the scan carry everything downstream. A chosen position is a hit that no earlier
choice reaches (`mem_select`), and every hit lies inside a choice (`spans_of_hit`), so nothing is
left over that could still be replaced.
-/

namespace BytecodeParity.Text

/-! ## Occurrences -/

/-- Whether `v` stands in `t` from the position on. -/
def occursAt (v t : Text) (i : Nat) : Bool := v.isPrefixOf (t.drop i)

theorem occursAt_iff {v t : Text} {i : Nat} :
    occursAt v t i = true ↔ ∀ k (hk : k < v.length), t[i + k]? = some v[k] := by
  rw [occursAt, List.isPrefixOf_iff_prefix, List.prefix_iff_getElem?]
  simp only [List.getElem?_drop]

theorem isInfix_iff_occursAt {v t : Text} : v <:+: t ↔ ∃ i, occursAt v t i = true := by
  constructor
  · rintro ⟨front, back, rfl⟩
    refine ⟨front.length, ?_⟩
    simp [occursAt, List.isPrefixOf_iff_prefix]
  · rintro ⟨i, hi⟩
    exact (List.isPrefixOf_iff_prefix.mp hi).isInfix.trans (List.drop_suffix i t).isInfix

/-- At one place there is one text of a length. -/
theorem eq_of_occursAt {v w t : Text} {i : Nat} (hlen : v.length = w.length)
    (hv : occursAt v t i = true) (hw : occursAt w t i = true) : v = w := by
  have hprefix : v <+: w := List.prefix_of_prefix_length_le (List.isPrefixOf_iff_prefix.mp hv)
    (List.isPrefixOf_iff_prefix.mp hw) (Nat.le_of_eq hlen)
  exact hprefix.eq_of_length hlen

/-- An occurrence ends inside the text. -/
theorem le_length_of_occursAt {v t : Text} {i : Nat} (hv : v ≠ []) (h : occursAt v t i = true) :
    i + v.length ≤ t.length := by
  have hpos : 0 < v.length := List.length_pos_iff.mpr hv
  have hlast := occursAt_iff.mp h (v.length - 1) (by omega)
  obtain ⟨hlt, -⟩ := List.getElem?_eq_some_iff.mp hlast
  omega

/-- Nothing occurs behind the end, so that a look at every position of a text is enough. -/
theorem forall_not_occursAt {v t : Text} (hv : v ≠ [])
    (h : ∀ a < t.length, occursAt v t a = false) (a : Nat) : occursAt v t a = false := by
  rcases Nat.lt_or_ge a t.length with hlt | hge
  · exact h a hlt
  · rw [Bool.eq_false_iff]
    intro hocc
    have hle := le_length_of_occursAt hv hocc
    have hpos := List.length_pos_iff.mpr hv
    omega

/-- Bytes as long as others, or longer, and not the same do not occur in them. -/
theorem occursAt_eq_false_of_le {x y : Text} (hy : y ≠ []) (hlen : x.length ≤ y.length)
    (hne : x ≠ y) (a : Nat) : occursAt y x a = false := by
  rw [Bool.eq_false_iff]
  intro h
  have hle := le_length_of_occursAt hy h
  have hpos := List.length_pos_iff.mpr hy
  obtain rfl : a = 0 := by omega
  refine hne (List.ext_getElem? fun k => ?_)
  rcases Nat.lt_or_ge k y.length with hk | hk
  · rw [List.getElem?_eq_getElem hk, ← occursAt_iff.mp h k hk, Nat.zero_add]
  · rw [List.getElem?_eq_none hk, List.getElem?_eq_none (by omega)]

/-- An occurrence ends inside a text that is cut behind it, and stands there as before. -/
theorem occursAt_take {v t : Text} {i n : Nat} (h : i + v.length ≤ n) :
    occursAt v (t.take n) i = occursAt v t i := by
  rw [Bool.eq_iff_iff, occursAt_iff, occursAt_iff]
  constructor
  · intro hocc k hk
    rw [← hocc k hk, List.getElem?_take_of_lt (by omega)]
  · intro hocc k hk
    rw [← hocc k hk, List.getElem?_take_of_lt (by omega)]

/-- From any position inside an occurrence on, the text is an ending of what occurs. -/
theorem suffix_of_occursAt {v t : Text} {i q : Nat} (h : occursAt v t i = true) (hi : i ≤ q) :
    (t.drop q).take (i + v.length - q) <:+ v := by
  have hfront : v = (t.drop i).take v.length := List.prefix_iff_eq_take.mp
    (List.isPrefixOf_iff_prefix.mp h)
  have hdrop : (t.drop q).take (i + v.length - q) = v.drop (q - i) := by
    conv_rhs => rw [hfront]
    rw [List.drop_take, List.drop_drop]
    congr 1
    · omega
    · congr 1
      omega
  rw [hdrop]
  exact List.drop_suffix _ _

/-! ## The scan -/

/-- The positions below a bound that a scan from left to right chooses, last one first: hits that
the occurrences chosen before them, each of the given size, do not reach. -/
def select (hit : Nat → Bool) (size : Nat) : Nat → List Nat
  | 0 => []
  | n + 1 =>
    let earlier := select hit size n
    if hit n && earlier.all (fun j => j + size ≤ n) then n :: earlier else earlier

variable {hit : Nat → Bool} {size : Nat}

/-- **What is chosen does not depend on how far the scan goes on**: a position is chosen when it
is a hit and the choices in front of it end in front of it. -/
theorem mem_select {bound j : Nat} :
    j ∈ select hit size bound ↔
      j < bound ∧ hit j = true ∧ ∀ i ∈ select hit size j, i + size ≤ j := by
  induction bound with
  | zero => simp [select]
  | succ n ih =>
    -- The last step either adds `n` or adds nothing.
    have hstep : j ∈ select hit size (n + 1) ↔
        (j = n ∧ hit n = true ∧ ∀ i ∈ select hit size n, i + size ≤ n) ∨
          j ∈ select hit size n := by
      rw [select]
      split
      next hc =>
        simp only [Bool.and_eq_true, List.all_eq_true, decide_eq_true_eq] at hc
        rw [List.mem_cons, and_iff_left hc]
      next hc =>
        simp only [Bool.and_eq_true, List.all_eq_true, decide_eq_true_eq] at hc
        exact ⟨Or.inr, fun h => h.resolve_left fun ⟨_, hn⟩ => hc hn⟩
    rw [hstep, ih]
    constructor
    · rintro (⟨rfl, hn⟩ | ⟨hlt, hj⟩)
      · exact ⟨Nat.lt_succ_self _, hn⟩
      · exact ⟨by omega, hj⟩
    · rintro ⟨hlt, hj⟩
      rcases Nat.lt_or_ge j n with h | h
      · exact Or.inr ⟨h, hj⟩
      · obtain rfl : j = n := by omega
        exact Or.inl ⟨rfl, hj⟩

/-- Cutting the scan short keeps the choices in front of the cut. -/
theorem mem_select_of_lt {bound i j : Nat} (h : i ∈ select hit size bound) (hij : i < j) :
    i ∈ select hit size j :=
  mem_select.mpr ⟨hij, (mem_select.mp h).2⟩

/-- What is chosen depends on the hits in front of the bound only. -/
theorem select_congr {hit' : Nat → Bool} {bound : Nat} (h : ∀ i < bound, hit i = hit' i) :
    select hit size bound = select hit' size bound := by
  induction bound with
  | zero => rfl
  | succ n ih =>
    rw [select, select, ih fun i hi => h i (by omega), h n (Nat.lt_succ_self n)]

/-- In a text that is cut the scan chooses what it chose before, as far as that ends inside. -/
theorem mem_select_take {v t : Text} (hv : v ≠ []) {n j : Nat} :
    j ∈ select (occursAt v (t.take n)) v.length (t.take n).length ↔
      j ∈ select (occursAt v t) v.length t.length ∧ j + v.length ≤ n := by
  have hpos := List.length_pos_iff.mpr hv
  have hlen : (t.take n).length ≤ n ∧ (t.take n).length ≤ t.length := by
    rw [List.length_take]
    omega
  -- In front of an occurrence that ends inside, the two texts have the same hits.
  have hsame : j + v.length ≤ n →
      select (occursAt v (t.take n)) v.length j = select (occursAt v t) v.length j := by
    intro hj
    exact select_congr fun i hi => occursAt_take (by omega)
  rw [mem_select, mem_select]
  constructor
  · rintro ⟨hlt, hhit, hfree⟩
    have hend : j + v.length ≤ n := by
      have := le_length_of_occursAt hv hhit
      omega
    rw [occursAt_take hend] at hhit
    rw [hsame hend] at hfree
    exact ⟨⟨by omega, hhit, hfree⟩, hend⟩
  · rintro ⟨⟨hlt, hhit, hfree⟩, hend⟩
    have := le_length_of_occursAt hv hhit
    refine ⟨?_, ?_, ?_⟩
    · rw [List.length_take]
      omega
    · rw [occursAt_take hend]
      exact hhit
    · rw [hsame hend]
      exact hfree

/-- Whether one of the occurrences that begin at these positions holds position `i`. -/
def spans (starts : List Nat) (size i : Nat) : Bool :=
  starts.any fun j => j ≤ i && i < j + size

theorem spans_iff {starts : List Nat} {i : Nat} :
    spans starts size i = true ↔ ∃ j ∈ starts, j ≤ i ∧ i < j + size := by
  simp [spans]

/-- **No hit is left over**: it was chosen, or an earlier choice reaches into it. -/
theorem spans_of_hit {bound i : Nat} (hsize : 0 < size) (hi : hit i = true) (hlt : i < bound) :
    spans (select hit size bound) size i = true := by
  rw [spans_iff]
  by_cases hc : ∀ j ∈ select hit size i, j + size ≤ i
  · exact ⟨i, mem_select.mpr ⟨hlt, hi, hc⟩, Nat.le_refl i, by omega⟩
  · obtain ⟨j, hj, hreach⟩ : ∃ j ∈ select hit size i, ¬ j + size ≤ i := by
      simpa only [not_forall, exists_prop] using hc
    obtain ⟨hji, hrest⟩ := mem_select.mp hj
    exact ⟨j, mem_select.mpr ⟨by omega, hrest⟩, by omega, by omega⟩

/-! ## Painting -/

/-- A text with `c` written over the positions of a set. -/
def paint (c : Char) (on : Nat → Bool) (t : Text) : Text :=
  t.mapIdx fun i a => if on i then c else a

variable {c : Char} {on : Nat → Bool} {t v : Text}

@[simp] theorem length_paint : (paint c on t).length = t.length := by
  rw [paint, List.length_mapIdx]

@[simp] theorem getElem?_paint (i : Nat) :
    (paint c on t)[i]? = t[i]?.map fun a => if on i then c else a := by
  rw [paint, List.getElem?_mapIdx]

theorem paint_none : paint c (fun _ => false) t = t := by
  refine List.ext_getElem? fun i => ?_
  simp

/-- The front of a painted text is the front of the text, painted. -/
theorem take_paint (n : Nat) : (paint c on t).take n = paint c on (t.take n) := by
  refine List.ext_getElem? fun i => ?_
  rw [List.getElem?_take, getElem?_paint, getElem?_paint, List.getElem?_take]
  split
  · rfl
  · rfl

/-- Small letters of a painted text are those of the text, painted small. -/
theorem lower_paint : lower (paint c on t) = paint c.toLower on (lower t) := by
  refine List.ext_getElem? fun i => ?_
  rw [lower, lower, List.getElem?_map, getElem?_paint, getElem?_paint, List.getElem?_map]
  cases t[i]? with
  | none => rfl
  | some a =>
    simp only [Option.map_some]
    split
    · rfl
    · rfl

/-- Where the text shows the paint already, it does not matter whether it is painted. -/
theorem paint_congr {on' : Nat → Bool}
    (h : ∀ i a, t[i]? = some a → on i = on' i ∨ a = c) : paint c on t = paint c on' t := by
  refine List.ext_getElem? fun i => ?_
  rw [getElem?_paint, getElem?_paint]
  cases ha : t[i]? with
  | none => rfl
  | some a =>
    rcases h i a ha with hon | rfl
    · rw [hon]
    · simp

/-- Painting twice with one character is painting once over both sets. -/
theorem paint_paint {more : Nat → Bool} :
    paint c more (paint c on t) = paint c (fun i => on i || more i) t := by
  refine List.ext_getElem? fun i => ?_
  cases h₁ : on i <;> cases h₂ : more i <;> simp [h₁, h₂, Function.comp_def]

/-- A text without the paint stands in a painted text where it stands in the text itself and
nothing is painted. -/
theorem occursAt_paint (hc : c ∉ v) (i : Nat) :
    occursAt v (paint c on t) i =
      (occursAt v t i && (List.range v.length).all fun k => !on (i + k)) := by
  rw [Bool.eq_iff_iff, Bool.and_eq_true, occursAt_iff, occursAt_iff, List.all_eq_true]
  simp only [List.mem_range, Bool.not_eq_true', getElem?_paint, Option.map_eq_some_iff]
  constructor
  · intro h
    -- A painted position shows `c`, which `v` does not have.
    have hfree : ∀ k (hk : k < v.length), on (i + k) = false ∧ t[i + k]? = some v[k] := by
      intro k hk
      obtain ⟨a, ha, hak⟩ := h k hk
      cases hon : on (i + k) with
      | true =>
        rw [hon, if_pos rfl] at hak
        exact absurd (hak ▸ List.getElem_mem hk) hc
      | false =>
        rw [hon, if_neg Bool.false_ne_true] at hak
        exact ⟨rfl, hak ▸ ha⟩
    exact ⟨fun k hk => (hfree k hk).2, fun k hk => (hfree k hk).1⟩
  · rintro ⟨hocc, hfree⟩ k hk
    exact ⟨v[k], hocc k hk, by rw [hfree k hk]; simp⟩

/-! ## The walk and the scan

`replaceFrom` carries how many characters are still to pass. `Reached` ties that number to the scan:
the choices in front of position `n` end at `n + skip` at the latest, and unless nothing is left
to pass one of them ends there. -/

/-- The state of the walk at position `n`, with `skip` characters to pass. -/
structure Reached (hit : Nat → Bool) (size n skip : Nat) : Prop where
  bound : ∀ j ∈ select hit size n, j + size ≤ n + skip
  tight : skip = 0 ∨ ∃ j ∈ select hit size n, j + size = n + skip

namespace Reached

variable {n k bound : Nat}

theorem start : Reached hit size 0 0 := ⟨by simp [select], Or.inl rfl⟩

/-- A choice in front of `n + 1` is `n` itself or was made before. -/
theorem mem_succ {j : Nat} (hj : j ∈ select hit size (n + 1)) :
    (j = n ∧ hit n = true ∧ ∀ i ∈ select hit size n, i + size ≤ n) ∨
      j ∈ select hit size n := by
  rcases Nat.lt_or_ge j n with h | h
  · exact Or.inr (mem_select_of_lt hj h)
  · obtain ⟨hlt, hrest⟩ := mem_select.mp hj
    obtain rfl : j = n := by omega
    exact Or.inl ⟨rfl, hrest⟩

theorem mem_select_succ {j : Nat} (hj : j ∈ select hit size n) :
    j ∈ select hit size (n + 1) := by
  obtain ⟨hlt, hrest⟩ := mem_select.mp hj
  exact mem_select.mpr ⟨by omega, hrest⟩

/-- Inside an occurrence nothing is chosen. -/
theorem pass (h : Reached hit size n (k + 1)) : Reached hit size (n + 1) k := by
  obtain ⟨j₀, hj₀, hend⟩ := h.tight.resolve_left (Nat.succ_ne_zero k)
  refine ⟨fun j hj => ?_, Or.inr ⟨j₀, mem_select_succ hj₀, by omega⟩⟩
  rcases mem_succ hj with ⟨-, -, hfree⟩ | hj
  · exact absurd (hfree j₀ hj₀) (by omega)
  · have := h.bound j hj
    omega

/-- With nothing left to pass, a hit is chosen. -/
theorem chosen (h : Reached hit size n 0) (hn : hit n = true) (hb : n < bound) :
    n ∈ select hit size bound :=
  mem_select.mpr ⟨hb, hn, h.bound⟩

theorem choose (h : Reached hit size n 0) (hn : hit n = true) (hsize : 0 < size) :
    Reached hit size (n + 1) (size - 1) := by
  refine ⟨fun j hj => ?_, Or.inr ⟨n, h.chosen hn (Nat.lt_succ_self n), by omega⟩⟩
  rcases mem_succ hj with ⟨rfl, -, -⟩ | hj
  · omega
  · have := h.bound j hj
    omega

theorem miss (h : Reached hit size n 0) (hn : hit n = false) : Reached hit size (n + 1) 0 := by
  refine ⟨fun j hj => ?_, Or.inl rfl⟩
  rcases mem_succ hj with ⟨-, hit', -⟩ | hj
  · exact absurd hit' (by rw [hn]; exact Bool.false_ne_true)
  · have := h.bound j hj
    omega

/-- With nothing left to pass, a position that is no hit lies in no choice, however far the scan
goes on. -/
theorem spans_eq_false (h : Reached hit size n 0) (hn : hit n = false) :
    spans (select hit size bound) size n = false := by
  rw [← Bool.not_eq_true, spans_iff]
  rintro ⟨j, hj, hjn, hnj⟩
  rcases Nat.lt_or_ge j n with hlt | hge
  · have := h.bound j (mem_select_of_lt hj hlt)
    omega
  · obtain rfl : j = n := by omega
    rw [(mem_select.mp hj).2.1] at hn
    exact Bool.noConfusion hn

end Reached

/-! ## Replacing -/

theorem drop_paint_of_not {n : Nat} {a : Char} {s : Text} (hs : t.drop n = a :: s)
    (hn : on n = false) :
    (paint c on t).drop n = a :: (paint c on t).drop (n + 1) := by
  have hget : t[n]? = some a := by
    have := congrArg (fun l : Text => l[0]?) hs
    simpa using this
  obtain ⟨hlt, -⟩ := List.getElem?_eq_some_iff.mp hget
  have hpaint : (paint c on t)[n]? = some a := by
    rw [getElem?_paint, hget, hn]; rfl
  rw [List.drop_eq_getElem_cons (by rw [length_paint]; exact hlt)]
  congr 1
  exact (List.getElem?_eq_some_iff.mp hpaint).2

theorem drop_paint_run {n m : Nat} (hlen : n + m ≤ t.length)
    (hon : ∀ k < m, on (n + k) = true) :
    (paint c on t).drop n = List.replicate m c ++ (paint c on t).drop (n + m) := by
  rw [← List.drop_drop, ← List.take_append_drop m ((paint c on t).drop n)]
  congr 1
  · refine List.ext_getElem? fun k => ?_
    rw [List.getElem?_take, List.getElem?_drop, getElem?_paint, List.getElem?_replicate]
    split
    next hk => rw [List.getElem?_eq_getElem (by omega), hon k hk]; rfl
    · rfl
  · rw [List.take_append_drop]

/-- What the walk writes from position `n` on is the painted text behind the characters that are
to pass. -/
theorem replaceFrom_eq_paint (hv : v ≠ []) {n skip : Nat} {s : Text} (hs : t.drop n = s)
    (h : Reached (occursAt v t) v.length n skip) :
    replaceFrom v (List.replicate v.length c) skip s =
      (paint c (spans (select (occursAt v t) v.length t.length) v.length) t).drop
        (n + skip) := by
  have hpos : 0 < v.length := List.length_pos_iff.mpr hv
  -- On what is left of the text, with the position and the number to pass going along.
  induction s generalizing n skip with
  | nil =>
    have hn : t.length ≤ n := List.drop_eq_nil_iff.mp hs
    rw [replaceFrom, List.drop_eq_nil_of_le (by rw [length_paint]; omega)]
  | cons a s ih =>
    have hn : n < t.length := by
      by_contra hge
      rw [List.drop_eq_nil_of_le (by omega)] at hs
      cases hs
    have htail : t.drop (n + 1) = s := by
      rw [← List.drop_drop, hs]; rfl
    cases skip with
    | succ k =>
      -- Inside an occurrence. What is painted here was written when it began.
      rw [replaceFrom, ih htail h.pass, Nat.add_right_comm, Nat.add_assoc]
    | zero =>
      have hocc : v.isPrefixOf (a :: s) = occursAt v t n := by rw [occursAt, hs]
      rw [replaceFrom, hocc, Nat.add_zero]
      cases hhit : occursAt v t n with
      | true =>
        -- An occurrence begins: it is chosen, and all of it is painted.
        have hfits := le_length_of_occursAt hv hhit
        rw [if_pos rfl, ih htail (h.choose hhit hpos), drop_paint_run hfits]
        · rw [Nat.add_assoc, Nat.add_sub_cancel' hpos]
        · intro k hk
          exact spans_iff.mpr ⟨n, h.chosen hhit hn, by omega, by omega⟩
      | false =>
        rw [if_neg Bool.false_ne_true, ih htail (h.miss hhit),
          drop_paint_of_not hs (h.spans_eq_false hhit)]

/-- **Replacing by a run of one character is painting where the scan chose.** -/
theorem replaceAll_eq_paint (hv : v ≠ []) :
    replaceAll v (List.replicate v.length c) t =
      paint c (spans (select (occursAt v t) v.length t.length) v.length) t := by
  rw [replaceAll, if_neg (by simpa using hv)]
  exact replaceFrom_eq_paint hv (List.drop_zero) Reached.start

end BytecodeParity.Text
