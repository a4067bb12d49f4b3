import BytecodeParity.Proofs.Code.Mark
/-!
# What masking writes over

Values need not be digits and codes need not either, so a mask may have more characters than what it
covers, and a place in a code is an offset in bytes. What masking does to a text is then best told
by a relation between the text before and after it, read from left to right in step: a character is
kept, or a value is written over. `Swept` tells so much of one pass, and that a character is only
kept where the value does not stand. `Overwritten` tells it of several passes and forgets why a
character was kept.

Everything rests on one property of a value, that it cannot be taken for a mask (`Clear`). What has
no mask character in it stands in a masked text only where nothing was written, and so stood in the
text before (`Overwritten.of_append`). Hence passes can be put together (`Overwritten.sweep`), a
later pass brings back nothing that an earlier one removed (`Overwritten.isInfix_of`), and **masking
leaves none of the values, changes nothing that lies in none of them, and has nothing left to do a
second time** (`mask?_sound_complete`).
-/

namespace BytecodeParity.Code

open Hex Text

variable {values : List Text} {v w t s r : Text} {c d : Char} {i n : Nat}

/-! ## Values and their masks -/

/-- A value that cannot be taken for a mask. -/
structure Clear (v : Text) : Prop where
  ne_nil : v ≠ []
  notMem : maskChar ∉ v

/-- What is written over a value. -/
def maskOver (v : Text) : Text := List.replicate (byteSize v) maskChar

theorem byteSize_maskOver (v : Text) : byteSize (maskOver v) = byteSize v := by
  rw [maskOver, byteSize_replicate]
  exact Nat.mul_one _

/-- Only the two cases of the mask character become it as small letters. -/
theorem eq_of_toLower_eq_maskChar (h : c.toLower = maskChar) : c = 'x' ∨ c = 'X' := by
  by_cases hcapital : 'A'.val ≤ c.val ∧ c.val ≤ 'Z'.val
  · right
    have hval : c.val + 32 = maskChar.val := (congrArg Char.val (dif_pos hcapital)).symm.trans
      (congrArg Char.val h)
    apply Char.ext
    rw [UInt32.le_iff_toNat_le, UInt32.le_iff_toNat_le] at hcapital
    rw [← UInt32.toNat_inj, UInt32.toNat_add] at hval
    rw [← UInt32.toNat_inj]
    have hZ : 'Z'.val.toNat = 90 := rfl
    have hX : 'X'.val.toNat = 88 := rfl
    have hx : maskChar.val.toNat = 120 := rfl
    have h32 : (32 : UInt32).toNat = 32 := rfl
    omega
  · left
    have hsame : c.toLower = c := dif_neg hcapital
    rw [← hsame, h]
    rfl

theorem clear_lower (hne : v ≠ []) (hsmall : 'x' ∉ v) (hcapital : 'X' ∉ v) : Clear (lower v) where
  ne_nil := lower_ne_nil hne
  notMem hmem := by
    obtain ⟨c, hc, hlower⟩ := List.mem_map.mp hmem
    rcases eq_of_toLower_eq_maskChar hlower with rfl | rfl
    · exact hsmall hc
    · exact hcapital hc

/-- A clear value does not stand at the front of a mask. -/
theorem Clear.not_isPrefix (hv : Clear v) : ¬ v <+: maskChar :: s := by
  intro h
  cases v with
  | nil => exact hv.ne_nil rfl
  | cons c v =>
    rw [List.cons_prefix_cons] at h
    exact hv.notMem (h.1 ▸ List.mem_cons_self)

/-- Behind a mask a clear value stands where it stands without it. -/
theorem Clear.isInfix_of_replicate (hv : Clear v)
    (h : v <:+: List.replicate n maskChar ++ s) : v <:+: s := by
  induction n with
  | zero => exact h
  | succ n ih =>
    rw [List.replicate_succ, List.cons_append, List.infix_cons_iff] at h
    exact ih (h.resolve_left hv.not_isPrefix)

/-! ## One pass -/

/-- What one value makes of a text: from left to right, a character is kept if the value does not
stand there, and the value is written over if it does. -/
inductive Swept (v : Text) : Text → Text → Prop
  | nil : Swept v [] []
  | keep {c : Char} {t s : Text} (h : ¬ v <+: c :: t) : Swept v t s → Swept v (c :: t) (c :: s)
  | write {t s : Text} : Swept v t s → Swept v (v ++ t) (maskOver v ++ s)

/-- What is left to skip can be dropped beforehand. -/
theorem replaceFrom_eq_drop (old new t : Text) (skip : Nat) :
    replaceFrom old new skip t = replaceFrom old new 0 (t.drop skip) := by
  induction t generalizing skip with
  | nil => rw [List.drop_nil, replaceFrom, replaceFrom]
  | cons c t ih =>
    cases skip with
    | zero => rfl
    | succ k => rw [replaceFrom, ih, List.drop_succ_cons]

theorem swept_replaceFrom (hv : v ≠ []) (t : Text) :
    Swept v t (replaceFrom v (maskOver v) 0 t) := by
  -- By length, since behind a value the walk goes on with all that follows it.
  induction hn : t.length using Nat.strongRecOn generalizing t with
  | ind n ih =>
    cases t with
    | nil =>
      rw [replaceFrom]
      exact .nil
    | cons c t =>
      rw [replaceFrom]
      by_cases hfront : v <+: c :: t
      · obtain ⟨rest, hrest⟩ := hfront
        have hbehind : t.drop (v.length - 1) = rest := by
          have hdrop : (c :: t).drop v.length = rest := by rw [← hrest, List.drop_left]
          have hpos := List.length_pos_iff.mpr hv
          rwa [show v.length = v.length - 1 + 1 by omega, List.drop_succ_cons] at hdrop
        have hshorter : rest.length < n := by
          have hlength := congrArg List.length hrest
          rw [List.length_append] at hlength
          have hpos := List.length_pos_iff.mpr hv
          omega
        rw [if_pos (List.isPrefixOf_iff_prefix.mpr ⟨rest, hrest⟩), replaceFrom_eq_drop, hbehind,
          ← hrest]
        exact .write (ih rest.length hshorter rest rfl)
      · rw [if_neg (mt List.isPrefixOf_iff_prefix.mp hfront)]
        exact .keep hfront (ih t.length (by rw [← hn]; exact Nat.lt_succ_self _) t rfl)

/-- **What a pass makes of a text.** -/
theorem swept_maskValue (hv : v ≠ []) (t : Text) : Swept (lower v) t (maskValue t v) := by
  have hne := lower_ne_nil hv
  rw [maskValue, replaceAll, if_neg (by simpa using hne)]
  exact swept_replaceFrom hne t

namespace Swept

theorem nil_inv (hv : v ≠ []) (h : Swept v [] s) : s = [] := by
  generalize hempty : ([] : Text) = u at h
  cases h with
  | nil => rfl
  | keep h hrest => cases hempty
  | write hrest => exact absurd (List.append_eq_nil_iff.mp hempty.symm).1 hv

theorem cons_inv (h : Swept v (c :: t) s) :
    (¬ v <+: c :: t ∧ ∃ r, s = c :: r ∧ Swept v t r) ∨
      ∃ rest r, c :: t = v ++ rest ∧ s = maskOver v ++ r ∧ Swept v rest r := by
  generalize hcons : c :: t = u at h
  cases h with
  | nil => cases hcons
  | keep hnot hrest =>
    obtain ⟨rfl, rfl⟩ := List.cons.inj hcons
    exact Or.inl ⟨hnot, _, rfl, hrest⟩
  | write hrest => exact Or.inr ⟨_, _, rfl, rfl, hrest⟩

/-- A pass of a clear value leaves a mask as it is. -/
theorem replicate_inv (hv : Clear v) (h : Swept v (List.replicate n maskChar ++ t) s) :
    ∃ r, s = List.replicate n maskChar ++ r ∧ Swept v t r := by
  induction n generalizing s with
  | zero => exact ⟨s, rfl, h⟩
  | succ n ih =>
    rw [List.replicate_succ] at h ⊢
    rcases h.cons_inv with ⟨-, r, rfl, hrest⟩ | ⟨rest, -, hrest, -⟩
    · obtain ⟨r, rfl, hbehind⟩ := ih hrest
      exact ⟨r, rfl, hbehind⟩
    · exact absurd ⟨rest, hrest.symm⟩ hv.not_isPrefix

/-- A value that does not stand in a text leaves it as it is. -/
theorem eq_self (h : Swept v t s) (hnot : ¬ v <:+: t) : s = t := by
  induction h with
  | nil => rfl
  | keep _ _ ih => rw [ih fun hinside => hnot (List.infix_cons hinside)]
  | write _ _ => exact absurd (List.prefix_append _ _).isInfix hnot

end Swept

/-! ## Several passes -/

/-- What several values make of a text: from left to right, a character is kept or one of the values
is written over. -/
inductive Overwritten (values : List Text) : Text → Text → Prop
  | nil : Overwritten values [] []
  | keep (c : Char) {t s : Text} : Overwritten values t s → Overwritten values (c :: t) (c :: s)
  | write {v t s : Text} (hv : v ∈ values) : Overwritten values t s →
      Overwritten values (v ++ t) (maskOver v ++ s)

namespace Overwritten

theorem refl (values : List Text) (t : Text) : Overwritten values t t := by
  induction t with
  | nil => exact .nil
  | cons c t ih => exact .keep c ih

theorem of_swept (hv : v ∈ values) (h : Swept v t s) : Overwritten values t s := by
  induction h with
  | nil => exact .nil
  | keep _ _ ih => exact .keep _ ih
  | write _ ih => exact .write hv ih

theorem exists_maskOver_cons (hv : v ≠ []) : ∃ mask, maskOver v = maskChar :: mask := by
  obtain ⟨n, hn⟩ := Nat.exists_eq_succ_of_ne_zero (Nat.ne_of_gt (byteSize_pos hv))
  exact ⟨List.replicate n maskChar, by rw [maskOver, hn, List.replicate_succ]⟩

/-- **What is no mask was kept**, and stands at the same place of the text. -/
theorem of_append (hvalues : ∀ v ∈ values, Clear v) (hw : maskChar ∉ w)
    (h : Overwritten values t (w ++ s)) : ∃ rest, t = w ++ rest ∧ Overwritten values rest s := by
  induction w generalizing t with
  | nil => exact ⟨t, rfl, h⟩
  | cons c w ih =>
    rw [List.mem_cons, not_or] at hw
    generalize hcons : c :: w ++ s = u at h
    cases h with
    | nil => cases hcons
    | keep d hrest =>
      obtain ⟨rfl, rfl⟩ := List.cons.inj hcons
      obtain ⟨rest, rfl, hbehind⟩ := ih hw.2 hrest
      exact ⟨rest, rfl, hbehind⟩
    | write hv hrest =>
      obtain ⟨mask, hmask⟩ := exists_maskOver_cons (hvalues _ hv).ne_nil
      rw [hmask] at hcons
      exact absurd (List.cons.inj hcons).1.symm hw.1

/-- **One more pass.** -/
theorem sweep (hvalues : ∀ v ∈ values, Clear v) (hv : v ∈ values)
    (h : Overwritten values t s) (hpass : Swept v s r) : Overwritten values t r := by
  -- By the length of the text between the passes: what the pass writes over ends anywhere in it.
  induction hn : s.length using Nat.strongRecOn generalizing t s r with
  | ind n ih =>
    subst hn
    have hpos {w : Text} (hw : w ∈ values) : 0 < (maskOver w).length := by
      rw [maskOver, List.length_replicate]
      exact byteSize_pos (hvalues w hw).ne_nil
    cases h with
    | nil =>
      rw [hpass.nil_inv (hvalues v hv).ne_nil]
      exact .nil
    | keep c hrest =>
      rcases hpass.cons_inv with ⟨-, r, rfl, hbehind⟩ | ⟨rest, r, hfront, rfl, hbehind⟩
      · exact .keep c (ih _ (Nat.lt_succ_self _) hrest hbehind rfl)
      · have hwhole := hrest.keep c
        rw [hfront] at hwhole
        obtain ⟨source, hsource, hover⟩ := of_append hvalues (hvalues v hv).notMem hwhole
        rw [hsource]
        refine .write hv (ih rest.length ?_ hover hbehind rfl)
        rw [hfront, List.length_append]
        have hvpos := List.length_pos_iff.mpr (hvalues v hv).ne_nil
        omega
    | write hw hrest =>
      obtain ⟨r, rfl, hbehind⟩ := hpass.replicate_inv (hvalues v hv)
      refine .write hw (ih _ ?_ hrest hbehind rfl)
      rw [List.length_append]
      exact Nat.lt_add_of_pos_left (hpos hw)

/-- **Nothing clear is there that was not there before.** -/
theorem isInfix_of (hvalues : ∀ v ∈ values, Clear v) (hw : Clear w)
    (h : Overwritten values t s) (hinside : w <:+: s) : w <:+: t := by
  induction h with
  | nil => exact hinside
  | keep c hrest ih =>
    rcases List.infix_cons_iff.mp hinside with ⟨rest, hfront⟩ | hbehind
    · have hwhole := hrest.keep c
      rw [← hfront] at hwhole
      obtain ⟨source, hsource, -⟩ := of_append hvalues hw.notMem hwhole
      rw [hsource]
      exact (List.prefix_append w source).isInfix
    · exact List.infix_cons (ih hbehind)
  | write _ _ ih =>
    exact (ih (hw.isInfix_of_replicate hinside)).trans (List.suffix_append _ _).isInfix

end Overwritten

/-- **A pass leaves nothing of its value.** -/
theorem Swept.not_isInfix (hv : Clear v) (h : Swept v t s) : ¬ v <:+: s := by
  have hvalues : ∀ w ∈ [v], Clear w := fun w hw => List.mem_singleton.mp hw ▸ hv
  induction h with
  | nil => exact fun hinside => hv.ne_nil (List.infix_nil.mp hinside)
  | keep hnot hrest ih =>
    intro hinside
    rcases List.infix_cons_iff.mp hinside with ⟨rest, hfront⟩ | hbehind
    · -- A value that stands in the masked text would have been there to be written over.
      have hwhole := Overwritten.of_swept (List.mem_singleton_self v) (.keep hnot hrest)
      rw [← hfront] at hwhole
      obtain ⟨source, hsource, -⟩ := Overwritten.of_append hvalues hv.notMem hwhole
      exact hnot ⟨source, hsource.symm⟩
    · exact ih hbehind
  | write _ ih => exact fun hinside => ih (hv.isInfix_of_replicate hinside)

/-- A value that does not occur is not masked. -/
theorem maskValue_eq_self (hv : v ≠ []) (h : ¬ lower v <:+: t) : maskValue t v = t :=
  (swept_maskValue hv t).eq_self h

/-! ## Lists of values -/

section List

variable {passes : List Text}

/-- The values of a list as they are searched. -/
theorem clear_of_mem_map (h : ∀ v ∈ passes, v ≠ [] ∧ 'x' ∉ v ∧ 'X' ∉ v) :
    ∀ v ∈ passes.map lower, Clear v := by
  intro v hv
  obtain ⟨w, hw, rfl⟩ := List.mem_map.mp hv
  obtain ⟨hne, hsmall, hcapital⟩ := h w hw
  exact clear_lower hne hsmall hcapital

/-- **What passes of some of the values make of a text.** -/
theorem overwritten_foldl (hvalues : ∀ v ∈ values, Clear v)
    (hpasses : ∀ v ∈ passes, v ≠ [] ∧ lower v ∈ values) (h : Overwritten values t s) :
    Overwritten values t (passes.foldl maskValue s) := by
  induction passes generalizing s with
  | nil => exact h
  | cons v passes ih =>
    obtain ⟨hne, hv⟩ := hpasses v List.mem_cons_self
    exact ih (fun w hw => hpasses w (List.mem_cons_of_mem v hw))
      (h.sweep hvalues hv (swept_maskValue hne s))

/-- **What is gone after its pass stays away.** -/
theorem not_isInfix_foldl (h : ∀ v ∈ passes, v ≠ [] ∧ 'x' ∉ v ∧ 'X' ∉ v) (t : Text) :
    ∀ v ∈ passes, ¬ lower v <:+: passes.foldl maskValue t := by
  induction passes generalizing t with
  | nil => exact List.forall_mem_nil _
  | cons v passes ih =>
    obtain ⟨hv, hpasses⟩ := List.forall_mem_cons.mp h
    refine List.forall_mem_cons.mpr ⟨fun hinside => ?_, ih hpasses (maskValue t v)⟩
    have hclear := clear_lower hv.1 hv.2.1 hv.2.2
    refine (swept_maskValue hv.1 t).not_isInfix hclear ?_
    exact (overwritten_foldl (clear_of_mem_map hpasses)
      (fun w hw => ⟨(hpasses w hw).1, List.mem_map_of_mem hw⟩)
      (Overwritten.refl _ (maskValue t v))).isInfix_of (clear_of_mem_map hpasses) hclear hinside

theorem foldl_maskValue_eq_self (h : ∀ v ∈ passes, v ≠ [] ∧ ¬ lower v <:+: t) :
    passes.foldl maskValue t = t := by
  induction passes with
  | nil => rfl
  | cons v passes ih =>
    obtain ⟨hv, hpasses⟩ := List.forall_mem_cons.mp h
    rw [List.foldl_cons, maskValue_eq_self hv.1 hv.2, ih hpasses]

end List

/-- Masks are small, so a text of small letters stays one. -/
theorem Overwritten.lower_eq (h : Overwritten values t s) (ht : lower t = t) : lower s = s := by
  induction h with
  | nil => rfl
  | keep c _ ih =>
    obtain ⟨hc, hrest⟩ := List.cons.inj ht
    rw [lower_cons, hc, ih hrest]
  | write _ _ ih =>
    rw [lower_append] at ht ⊢
    rw [ih (List.append_inj ht (length_lower _)).2, maskOver, Text.lower, List.map_replicate]
    rfl

/-! ## Characters by their offset -/

/-- The text has a character at an offset in bytes. -/
def CharAt (t : Text) (i : Nat) (c : Char) : Prop :=
  ∃ front back, t = front ++ c :: back ∧ byteSize front = i

/-- The offset lies in an occurrence of one of the values. -/
def Within (values : List Text) (t : Text) (i : Nat) : Prop :=
  ∃ v ∈ values, ∃ front back, t = front ++ v ++ back ∧
    byteSize front ≤ i ∧ i < byteSize front + byteSize v

theorem charAt_cons :
    CharAt (d :: t) i c ↔ (i = 0 ∧ c = d) ∨ ∃ j, i = d.utf8Size + j ∧ CharAt t j c := by
  constructor
  · rintro ⟨front, back, ht, rfl⟩
    cases front with
    | nil => exact Or.inl ⟨rfl, (List.cons.inj ht).1.symm⟩
    | cons e front =>
      obtain ⟨rfl, rfl⟩ := List.cons.inj ht
      exact Or.inr ⟨byteSize front, rfl, front, back, rfl, rfl⟩
  · rintro (⟨rfl, rfl⟩ | ⟨j, rfl, front, back, rfl, rfl⟩)
    · exact ⟨[], t, rfl, rfl⟩
    · exact ⟨d :: front, back, rfl, rfl⟩

theorem charAt_append :
    CharAt (s ++ t) i c ↔ CharAt s i c ∨ ∃ j, i = byteSize s + j ∧ CharAt t j c := by
  induction s generalizing i with
  | nil => simp [CharAt]
  | cons d s ih =>
    simp only [List.cons_append, charAt_cons, ih, byteSize_cons, Nat.add_assoc]
    constructor
    · rintro (h | ⟨j, rfl, h | ⟨k, rfl, h⟩⟩)
      · exact Or.inl (Or.inl h)
      · exact Or.inl (Or.inr ⟨j, rfl, h⟩)
      · exact Or.inr ⟨k, rfl, h⟩
    · rintro ((h | ⟨j, rfl, h⟩) | ⟨k, rfl, h⟩)
      · exact Or.inl h
      · exact Or.inr ⟨j, rfl, Or.inl h⟩
      · exact Or.inr ⟨_, rfl, Or.inr ⟨k, rfl, h⟩⟩

theorem lt_of_charAt (h : CharAt t i c) : i < byteSize t := by
  obtain ⟨front, back, rfl, rfl⟩ := h
  rw [byteSize_append, byteSize_cons]
  have hpos := Char.utf8Size_pos c
  omega

theorem charAt_replicate : CharAt (List.replicate n maskChar) i c ↔ i < n ∧ c = maskChar := by
  induction n generalizing i with
  | zero => exact iff_of_false (fun h => absurd (lt_of_charAt h) (by simp)) (by simp)
  | succ n ih =>
    rw [List.replicate_succ, charAt_cons]
    simp only [ih]
    constructor
    · rintro (⟨rfl, hc⟩ | ⟨j, rfl, hj, hc⟩)
      · exact ⟨Nat.succ_pos n, hc⟩
      · exact ⟨by rw [Nat.add_comm]; exact Nat.succ_lt_succ hj, hc⟩
    · rintro ⟨hi, hc⟩
      cases i with
      | zero => exact Or.inl ⟨rfl, hc⟩
      | succ j => exact Or.inr ⟨j, Nat.add_comm j 1, Nat.lt_of_succ_lt_succ hi, hc⟩

theorem Within.append (h : Within values t i) (s : Text) :
    Within values (s ++ t) (byteSize s + i) := by
  obtain ⟨v, hv, front, back, rfl, hle, hlt⟩ := h
  refine ⟨v, hv, s ++ front, back, by simp only [List.append_assoc], ?_, ?_⟩
  · rw [byteSize_append]
    omega
  · rw [byteSize_append]
    omega

theorem within_front (hv : v ∈ values) (t : Text) (hi : i < byteSize v) :
    Within values (v ++ t) i :=
  ⟨v, hv, [], t, rfl, Nat.zero_le i, by rw [byteSize_nil, Nat.zero_add]; exact hi⟩

namespace Overwritten

/-- **A character that is new is the mask, and lies where a value stood.** -/
theorem of_charAt (h : Overwritten values t s) (hc : CharAt s i c) :
    CharAt t i c ∨ c = maskChar ∧ Within values t i := by
  induction h generalizing i with
  | nil => exact Or.inl hc
  | keep d _ ih =>
    rcases charAt_cons.mp hc with hfront | ⟨j, rfl, hj⟩
    · exact Or.inl (charAt_cons.mpr (Or.inl hfront))
    · exact (ih hj).imp (fun h => charAt_cons.mpr (Or.inr ⟨j, rfl, h⟩))
        fun ⟨hmask, hin⟩ => ⟨hmask, hin.append [d]⟩
  | @write v t s hv _ ih =>
    rcases charAt_append.mp hc with hmask | ⟨j, rfl, hj⟩
    · obtain ⟨hi, hmask⟩ := charAt_replicate.mp hmask
      exact Or.inr ⟨hmask, within_front hv t hi⟩
    · rw [byteSize_maskOver]
      exact (ih hj).imp (fun h => charAt_append.mpr (Or.inr ⟨j, rfl, h⟩))
        fun ⟨hmask, hin⟩ => ⟨hmask, hin.append v⟩

/-- **A character that is gone lay in a value, and the mask stands in its place.** -/
theorem charAt_of (h : Overwritten values t s) (hc : CharAt t i c) :
    CharAt s i c ∨ CharAt s i maskChar ∧ Within values t i := by
  induction h generalizing i with
  | nil => exact Or.inl hc
  | keep d _ ih =>
    rcases charAt_cons.mp hc with hfront | ⟨j, rfl, hj⟩
    · exact Or.inl (charAt_cons.mpr (Or.inl hfront))
    · exact (ih hj).imp (fun h => charAt_cons.mpr (Or.inr ⟨j, rfl, h⟩))
        fun ⟨hmask, hin⟩ => ⟨charAt_cons.mpr (Or.inr ⟨j, rfl, hmask⟩), hin.append [d]⟩
  | @write v t s hv _ ih =>
    rcases charAt_append.mp hc with hfront | ⟨j, rfl, hj⟩
    · have hi := lt_of_charAt hfront
      exact Or.inr ⟨charAt_append.mpr (Or.inl (charAt_replicate.mpr ⟨hi, rfl⟩)),
        within_front hv t hi⟩
    · rw [← byteSize_maskOver v]
      refine (ih hj).imp (fun h => charAt_append.mpr (Or.inr ⟨j, rfl, h⟩)) fun ⟨hmask, hin⟩ => ?_
      refine ⟨charAt_append.mpr (Or.inr ⟨j, rfl, hmask⟩), ?_⟩
      rw [byteSize_maskOver]
      exact hin.append v

end Overwritten

/-! ## Masking -/

/-- What a masked text has of the code it was made from. -/
structure MaskOf (values : List Text) (code masked : Text) : Prop where
  byteSize_eq : byteSize masked = byteSize code
  /-- None of the values is left. -/
  gone : ∀ v ∈ values, ¬ lower v <:+: masked
  /-- A character that is not that of the code is the mask, and lies in an occurrence of a value. -/
  of_charAt : ∀ i c, CharAt masked i c →
    CharAt (lower code) i c ∨ c = maskChar ∧ Within (values.map lower) (lower code) i
  /-- A character of the code that is not there any more lies in one too, and was masked. -/
  charAt_of : ∀ i c, CharAt (lower code) i c →
    CharAt masked i c ∨ CharAt masked i maskChar ∧ Within (values.map lower) (lower code) i

theorem mask?_eq_ok (h : ∀ v ∈ values, v ≠ []) (code : Text) :
    mask? values code = .ok (mask values code) := by
  rw [mask?, if_neg]
  rw [List.any_eq_true]
  rintro ⟨v, hv, hempty⟩
  exact h v hv (List.isEmpty_iff.mp hempty)

/-- **Masking is sound and complete.** A list of values that have something to them and no letter x
can be masked in any text; the result has the size of the text and none of the values, it differs
from the text in small letters only in masks, and only where a value stood, and masking it once more
changes nothing. -/
theorem mask?_sound_complete (h : ∀ v ∈ values, v ≠ [] ∧ 'x' ∉ v ∧ 'X' ∉ v) (code : Text) :
    ∃ masked, mask? values code = .ok masked ∧ MaskOf values code masked ∧
      mask? values masked = .ok masked := by
  have hne : ∀ v ∈ values, v ≠ [] := fun v hv => (h v hv).1
  have hover : Overwritten (values.map lower) (lower code) (mask values code) :=
    overwritten_foldl (clear_of_mem_map h) (fun v hv => ⟨hne v hv, List.mem_map_of_mem hv⟩)
      (Overwritten.refl _ _)
  have hgone : ∀ v ∈ values, ¬ lower v <:+: mask values code := not_isInfix_foldl h (lower code)
  have hagain : mask values (mask values code) = mask values code := by
    rw [mask, hover.lower_eq (lower_lower code)]
    exact foldl_maskValue_eq_self fun v hv => ⟨hne v hv, hgone v hv⟩
  refine ⟨mask values code, mask?_eq_ok hne code, ?_, ?_⟩
  · exact
      { byteSize_eq := byteSize_mask values code
        gone := hgone
        of_charAt := fun i c => hover.of_charAt
        charAt_of := fun i c => hover.charAt_of }
  · rw [mask?_eq_ok hne, hagain]

/-- Values that overlap themselves and each other, one of them with a letter of two bytes: what the
first has written over is not there for the second. -/
theorem mask?_sound_complete_overlapping :
    let values := ["aBa".toList, "ab".toList, "éF".toList]
    let code := "0xABABAbÉéf1".toList
    ∃ masked, mask? values code = .ok masked ∧ masked = "0xxxxbxxÉxxx1".toList ∧
      ¬ lower "ab".toList <:+: masked ∧ mask? values masked = .ok masked := by
  intro values code
  obtain ⟨masked, hmasked, hof, hagain⟩ :=
    @mask?_sound_complete values (by decide +kernel) code
  refine ⟨masked, hmasked, ?_, hof.gone "ab".toList (by decide +kernel), hagain⟩
  have hvalue : mask? values code = .ok "0xxxxbxxÉxxx1".toList := by decide +kernel
  rw [hmasked] at hvalue
  exact Except.ok.inj hvalue

end BytecodeParity.Code
