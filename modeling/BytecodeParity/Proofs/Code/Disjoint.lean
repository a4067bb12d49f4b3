import BytecodeParity.Proofs.Code.Overwriting
/-!
# Values that keep out of each other's way

Values are masked one after the other, and where two of them share a character the first one takes
it. Registries list the values of two deployments in different orders, so a comparison leans on
there being nothing to share. This file says when that is so and what masking comes to then.

`SweptAtOnce` is one walk for all values: a character is kept if none of them stands there, and a
value that stands there is written over. No order is in it, only which values there are. A pass for
one more value turns such a walk into the walk for one more value (`SweptAtOnce.sweep`), because it
meets its occurrences as they were: masks hold none, and the values before it wrote over nothing of
them. Where different values do not overlap there is one way to walk (`SweptAtOnce.unique`), hence
**masking does not depend on the order of the values, nor on how often they are listed**
(`mask?_eq_of_same_values`). A value may still overlap itself.
-/

namespace BytecodeParity.Code

open Hex Text

/-- Where both of two values stand in a text, one ends before the other begins. -/
def StandApart (v w t : Text) : Prop :=
  ∀ i < t.length, ∀ j < t.length, occursAt v t i = true → occursAt w t j = true →
    i + v.length ≤ j ∨ j + w.length ≤ i

/-- No occurrence of a value overlaps one of a different value. -/
def NoOverlap (values : List Text) (t : Text) : Prop :=
  ∀ v ∈ values, ∀ w ∈ values, v ≠ w → StandApart v w t

instance (v w t : Text) : Decidable (StandApart v w t) := by
  unfold StandApart
  infer_instance

instance (values : List Text) (t : Text) : Decidable (NoOverlap values t) := by
  unfold NoOverlap
  infer_instance

namespace NoOverlap

theorem mono {values more : List Text} {t : Text} (hsub : values ⊆ more) (h : NoOverlap more t) :
    NoOverlap values t := by
  intro v hv w hw
  exact h v (hsub hv) w (hsub hw)

theorem of_append {values : List Text} {front t : Text} (h : NoOverlap values (front ++ t)) :
    NoOverlap values t := by
  intro v hv w hw hne i hi j hj hoi hoj
  have hshift : ∀ (u : Text) (k : Nat),
      occursAt u (front ++ t) (front.length + k) = occursAt u t k := by
    intro u k
    unfold occursAt
    rw [List.drop_length_add_append]
  have hapart := h v hv w hw hne (front.length + i) (by simp [hi]) (front.length + j) (by simp [hj])
    (by rw [hshift]; exact hoi) (by rw [hshift]; exact hoj)
  omega

theorem tail {values : List Text} {c : Char} {t : Text} (h : NoOverlap values (c :: t)) :
    NoOverlap values t := by
  rw [← List.singleton_append] at h
  exact h.of_append

/-- What stands inside an occurrence at the front is that value again. -/
theorem eq_of_prefix {values : List Text} {v w t : Text} {k : Nat} (h : NoOverlap values t)
    (hv : v ∈ values) (hw : w ∈ values) (hne : w ≠ []) (hvt : v <+: t) (hwt : w <+: t.drop k)
    (hk : k < v.length) : v = w := by
  apply Classical.byContradiction
  intro hdiff
  have hlen := hvt.length_le
  have hocc : occursAt v t 0 = true := by
    unfold occursAt
    simpa using hvt
  have hocc' : occursAt w t k = true := by
    unfold occursAt
    simpa using hwt
  have hpos : 0 < w.length := List.length_pos_iff.mpr hne
  have hapart := h v hv w hw hdiff 0 (by omega) k (by omega) hocc hocc'
  omega

end NoOverlap

/-! ## One walk for all values -/

/-- Where the value of a pass stands in front, it is written over. -/
theorem Swept.append_inv {v t s : Text} (hv : v ≠ []) (h : Swept v (v ++ t) s) :
    ∃ r, s = maskOver v ++ r ∧ Swept v t r := by
  cases v with
  | nil => exact absurd rfl hv
  | cons c v =>
    rw [List.cons_append] at h
    rcases h.cons_inv with ⟨hnot, _⟩ | ⟨rest, r, hfront, hs, hrest⟩
    · exact absurd (List.prefix_append (c :: v) t) hnot
    · rw [← List.cons_append, List.append_cancel_left_eq] at hfront
      subst hfront
      exact ⟨r, hs, hrest⟩

/-- What several values make of a text in one walk from left to right. -/
inductive SweptAtOnce (values : List Text) : Text → Text → Prop
  | nil : SweptAtOnce values [] []
  | keep {c : Char} {t s : Text} (h : ∀ v ∈ values, ¬ v <+: c :: t) :
      SweptAtOnce values t s → SweptAtOnce values (c :: t) (c :: s)
  | write {v t s : Text} (hv : v ∈ values) :
      SweptAtOnce values t s → SweptAtOnce values (v ++ t) (maskOver v ++ s)

namespace SweptAtOnce

theorem of_no_values (t : Text) : SweptAtOnce [] t t := by
  induction t with
  | nil => exact .nil
  | cons c t ih => exact .keep (by simp) ih

theorem overwritten {values : List Text} {t s : Text} (h : SweptAtOnce values t s) :
    Overwritten values t s := by
  induction h with
  | nil => exact .nil
  | keep _ _ ih => exact .keep _ ih
  | write hv _ ih => exact .write hv ih

theorem congr {values others : List Text} {t s : Text} (hsame : ∀ v, v ∈ values ↔ v ∈ others)
    (h : SweptAtOnce values t s) : SweptAtOnce others t s := by
  induction h with
  | nil => exact .nil
  | keep hnot _ ih => exact .keep (fun v hv => hnot v ((hsame v).mpr hv)) ih
  | write hv _ ih => exact .write ((hsame _).mp hv) ih

theorem nil_inv {values : List Text} {s : Text} (hne : ∀ v ∈ values, v ≠ [])
    (h : SweptAtOnce values [] s) : s = [] := by
  generalize hempty : ([] : Text) = u at h
  cases h with
  | nil => rfl
  | keep => cases hempty
  | write hv _ => exact absurd (List.append_eq_nil_iff.mp hempty.symm).1 (hne _ hv)

theorem cons_inv {values : List Text} {c : Char} {t s : Text}
    (h : SweptAtOnce values (c :: t) s) :
    ((∀ v ∈ values, ¬ v <+: c :: t) ∧ ∃ r, s = c :: r ∧ SweptAtOnce values t r) ∨
      ∃ v ∈ values, ∃ rest r, c :: t = v ++ rest ∧ s = maskOver v ++ r ∧
        SweptAtOnce values rest r := by
  generalize hcons : c :: t = u at h
  cases h with
  | nil => cases hcons
  | keep hnot hrest =>
    obtain ⟨rfl, rfl⟩ := List.cons.inj hcons
    exact Or.inl ⟨hnot, _, rfl, hrest⟩
  | write hv hrest => exact Or.inr ⟨_, hv, _, _, rfl, rfl, hrest⟩

/-- Characters in which no value begins are kept. -/
theorem append_inv {values : List Text} {v rest s : Text}
    (hfree : ∀ k < v.length, ∀ w ∈ values, ¬ w <+: (v ++ rest).drop k)
    (h : SweptAtOnce values (v ++ rest) s) : ∃ r, s = v ++ r ∧ SweptAtOnce values rest r := by
  induction v generalizing s with
  | nil => exact ⟨s, rfl, h⟩
  | cons c v ih =>
    rw [List.cons_append] at h
    rcases h.cons_inv with ⟨_, r, hr, hbehind⟩ | ⟨w, hw, back, r, hfront, _, _⟩
    · have hfree' : ∀ k < v.length, ∀ w ∈ values, ¬ w <+: (v ++ rest).drop k := by
        intro k hk
        exact hfree (k + 1) (by simpa using hk)
      obtain ⟨r', hr', hrest⟩ := ih hfree' hbehind
      exact ⟨r', by rw [hr, hr', List.cons_append], hrest⟩
    · exact absurd ⟨back, hfront.symm⟩ (hfree 0 (by simp) w hw)

/-- **One more pass is one more value in the walk.** -/
theorem sweep {values : List Text} {v t s r : Text} (hclear : ∀ w ∈ v :: values, Clear w)
    (hno : NoOverlap (v :: values) t) (h : SweptAtOnce values t s) (hpass : Swept v s r) :
    SweptAtOnce (v :: values) t r := by
  have hv : Clear v := hclear v List.mem_cons_self
  have hvalues : ∀ w ∈ values, Clear w := fun w hw => hclear w (List.mem_cons_of_mem v hw)
  -- By the length of the text: where the new value stands, the walk goes on behind it.
  induction hn : t.length using Nat.strongRecOn generalizing t s r with
  | ind n ih =>
    subst hn
    cases h with
    | nil =>
      rw [hpass.nil_inv hv.ne_nil]
      exact .nil
    | @keep c t s hnot hrest =>
      by_cases hfront : v <+: c :: t
      · -- The values before have not touched this occurrence.
        obtain ⟨rest, hsplit⟩ := hfront
        have hnew : v ∉ values := by
          intro hmem
          exact hnot v hmem ⟨rest, hsplit⟩
        have hfree : ∀ k < v.length, ∀ w ∈ values, ¬ w <+: (v ++ rest).drop k := by
          intro k hk w hw hin
          rw [hsplit] at hin
          have heq : v = w := hno.eq_of_prefix List.mem_cons_self (List.mem_cons_of_mem v hw)
            (hvalues w hw).ne_nil ⟨rest, hsplit⟩ hin hk
          rw [heq] at hnew
          exact hnew hw
        have hwhole := hrest.keep hnot
        rw [← hsplit] at hwhole hno ⊢
        obtain ⟨s', hs', hbehind⟩ := append_inv hfree hwhole
        rw [hs'] at hpass
        obtain ⟨r', hr', hpass'⟩ := hpass.append_inv hv.ne_nil
        rw [hr']
        apply SweptAtOnce.write List.mem_cons_self
        apply ih rest.length ?_ hno.of_append hbehind hpass' rfl
        have hpos := List.length_pos_iff.mpr hv.ne_nil
        rw [← hsplit, List.length_append]
        omega
      · have hstays : ¬ v <+: c :: s := by
          intro hin
          obtain ⟨rest, hs⟩ := hin
          have hwhole := (hrest.keep hnot).overwritten
          rw [← hs] at hwhole
          obtain ⟨back, hback, _⟩ := Overwritten.of_append hvalues hv.notMem hwhole
          exact hfront ⟨back, hback.symm⟩
        rcases hpass.cons_inv with ⟨_, r', hr', hpass'⟩ | ⟨rest, _, hs, _⟩
        · rw [hr']
          apply SweptAtOnce.keep
          · intro w hw
            rcases List.mem_cons.mp hw with hw | hw
            · rw [hw]
              exact hfront
            · exact hnot w hw
          · exact ih t.length (by simp) hno.tail hrest hpass' rfl
        · exact absurd ⟨rest, hs.symm⟩ hstays
    | @write w t s hw hrest =>
      obtain ⟨r', hr', hpass'⟩ := hpass.replicate_inv hv
      rw [hr']
      apply SweptAtOnce.write (List.mem_cons_of_mem v hw)
      apply ih t.length ?_ hno.of_append hrest hpass' rfl
      have hpos := List.length_pos_iff.mpr (hvalues w hw).ne_nil
      rw [List.length_append]
      omega

/-- **There is one way to walk.** -/
theorem unique {values : List Text} {t s s' : Text} (hne : ∀ v ∈ values, v ≠ [])
    (hno : NoOverlap values t) (h : SweptAtOnce values t s) (h' : SweptAtOnce values t s') :
    s = s' := by
  induction h generalizing s' with
  | nil => exact (h'.nil_inv hne).symm
  | keep hnot _ ih =>
    rcases h'.cons_inv with ⟨_, r, hr, hrest⟩ | ⟨v, hv, rest, _, hfront, _⟩
    · rw [hr, ih hno.tail hrest]
    · exact absurd ⟨rest, hfront.symm⟩ (hnot v hv)
  | @write v t s hv _ ih =>
    obtain ⟨c, u, hcons⟩ : ∃ c u, v ++ t = c :: u := by
      apply List.exists_cons_of_ne_nil
      simp [hne v hv]
    rw [hcons] at h'
    rcases h'.cons_inv with ⟨hnot, _⟩ | ⟨w, hw, rest, r, hfront, hr, hrest⟩
    · exact absurd ⟨t, hcons⟩ (hnot v hv)
    · -- Both values stand in front, so they are one.
      rw [← hcons] at hfront
      have hsame : v = w := by
        apply hno.eq_of_prefix (k := 0) hv hw (hne w hw) (List.prefix_append v t)
        · exact ⟨rest, hfront.symm⟩
        · exact List.length_pos_iff.mpr (hne v hv)
      subst hsame
      rw [List.append_cancel_left_eq] at hfront
      subst hfront
      rw [hr, ih hno.of_append hrest]

end SweptAtOnce

/-! ## Masking -/

/-- **Masking is one walk for all values.** -/
theorem sweptAtOnce_mask {values : List Text} (h : ∀ v ∈ values, v ≠ [] ∧ 'x' ∉ v ∧ 'X' ∉ v)
    {code : Text} (hno : NoOverlap (values.map lower) (lower code)) :
    SweptAtOnce (values.map lower) (lower code) (mask values code) := by
  induction values using List.reverseRecOn with
  | nil => exact .of_no_values (lower code)
  | append_singleton values v ih =>
    have hsame : ∀ w, w ∈ lower v :: values.map lower ↔ w ∈ (values ++ [v]).map lower := by
      intro w
      simp [or_comm]
    have hfront : SweptAtOnce (values.map lower) (lower code) (mask values code) := by
      apply ih
      · intro w hw
        exact h w (List.mem_append_left [v] hw)
      · apply hno.mono
        simp
    have hpass : Swept (lower v) (mask values code) (mask (values ++ [v]) code) := by
      unfold mask
      rw [List.foldl_append]
      exact swept_maskValue (h v (by simp)).1 _
    apply SweptAtOnce.congr hsame
    apply SweptAtOnce.sweep _ _ hfront hpass
    · intro w hw
      exact clear_of_mem_map h w ((hsame w).mp hw)
    · exact hno.mono fun w hw => (hsame w).mp hw

/-- Lists of the same values up to the case of letters mask alike. -/
theorem mask_congr {values others : List Text} (h : ∀ v ∈ values, v ≠ [] ∧ 'x' ∉ v ∧ 'X' ∉ v)
    (h' : ∀ v ∈ others, v ≠ [] ∧ 'x' ∉ v ∧ 'X' ∉ v)
    (hsame : ∀ v, v ∈ values.map lower ↔ v ∈ others.map lower) {code : Text}
    (hno : NoOverlap (values.map lower) (lower code)) : mask others code = mask values code := by
  have hno' : NoOverlap (others.map lower) (lower code) := hno.mono fun v hv => (hsame v).mpr hv
  have hwalk := (sweptAtOnce_mask h hno).congr hsame
  apply SweptAtOnce.unique _ hno' (sweptAtOnce_mask h' hno') hwalk
  intro v hv
  exact (clear_of_mem_map h' v hv).ne_nil

/-- **The order of values that do not overlap is of no account.** If no occurrence of one of the
values in the small letters of a text overlaps an occurrence of another, then the list masks the
text as each of its permutations does, and as each list of the same values does, however often
these are listed. -/
theorem mask?_eq_of_same_values {values : List Text}
    (h : ∀ v ∈ values, v ≠ [] ∧ 'x' ∉ v ∧ 'X' ∉ v) (code : Text)
    (hno : NoOverlap (values.map lower) (lower code)) :
    ∃ masked, mask? values code = .ok masked ∧
      (∀ others, others.Perm values → mask? others code = .ok masked) ∧
      ∀ others, (∀ v, v ∈ others ↔ v ∈ values) → mask? others code = .ok masked := by
  have hlist : ∀ others : List Text, (∀ v, v ∈ others ↔ v ∈ values) →
      mask? others code = .ok (mask values code) := by
    intro others hothers
    have h' : ∀ v ∈ others, v ≠ [] ∧ 'x' ∉ v ∧ 'X' ∉ v := by
      intro v hv
      exact h v ((hothers v).mp hv)
    have hsame : ∀ v, v ∈ values.map lower ↔ v ∈ others.map lower := by
      intro v
      simp [hothers]
    rw [mask?_eq_ok (fun v hv => (h' v hv).1), mask_congr h h' hsame hno]
  refine ⟨mask values code, hlist values fun v => Iff.rfl, ?_, hlist⟩
  intro others hperm
  exact hlist others fun v => hperm.mem_iff

/-- A value that overlaps itself, next to one with a letter of two bytes: both orders give the same,
and so does listing one of them twice. -/
theorem mask?_eq_of_same_values_overlapping :
    let values := ["AbA".toList, "éF".toList]
    let code := "0xabABabéf1".toList
    NoOverlap (values.map lower) (lower code) ∧
      mask? values code = .ok "0xxxxbabxxx1".toList ∧
      mask? ["éF".toList, "AbA".toList] code = mask? values code ∧
      mask? ["éF".toList, "AbA".toList, "éF".toList] code = mask? values code := by
  intro values code
  have hno : NoOverlap (values.map lower) (lower code) := by decide +kernel
  obtain ⟨masked, hmasked, hperm, hsame⟩ :=
    @mask?_eq_of_same_values values (by decide +kernel) code hno
  refine ⟨hno, by decide +kernel, ?_, ?_⟩
  · rw [hmasked]
    exact hperm _ (List.Perm.swap _ _ [])
  · rw [hmasked]
    apply hsame
    intro v
    simp only [values, List.mem_cons, List.not_mem_nil, or_false]
    tauto

end BytecodeParity.Code
