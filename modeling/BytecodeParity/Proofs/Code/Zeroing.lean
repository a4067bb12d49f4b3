import BytecodeParity.Proofs.Code.Order
import BytecodeParity.Proofs.Text.Size
import Mathlib.Data.List.Infix
import Mathlib.Data.List.Nodup
/-!
# What zeroing leaves

A mask is a character that no value has, so nothing that masking writes can be part of a value. What
zeroing writes can: addresses begin with zeros, some end in one, and behind or in front of zeros
that are written the rest of an address makes a whole one. If its turn is still to come, it is
zeroed then. If its turn is over, it is **restored** and stays.

    5c69…aa6f 4444c5dc…8a90     the pair factory, and the pool manager but for its zeros
    0000…0000 4444c5dc…8a90     the pool manager, whose turn was before

There is no other way for an address to be left. Two addresses overlap in zeros at most
(`ShareZeros`), so a pass takes nothing away from other addresses (`occursAt_zeroAddress`) and an
address that stands in the text is there when its turn comes. An address of which the passes wrote
nothing would have been zeroed itself. Hence **zeroing is complete, and has nothing left to do a
second time, exactly if it restores nothing** (`zeroing_complete_iff`), and of an address that
neither begins nor ends with a zero it never does.
-/

namespace BytecodeParity.Code

open Hex Text

variable {a b t front back code : Text} {i j m p : Nat} {addresses done all : List Text}
  {name : String}

/-! ## Two addresses in one text -/

/-- Two addresses of one length. Where a proper ending of the first is a beginning of the second, it
consists of zeros. -/
structure ShareZeros (a b : Text) : Prop where
  length_eq : a.length = b.length
  zero : ∀ s, s <:+ a.tail → s <+: b → ∀ c ∈ s, c = '0'

instance (a b : Text) : Decidable (ShareZeros a b) :=
  decidable_of_iff
    (a.length = b.length ∧ ∀ s ∈ a.tail.tails, s <+: b → ∀ c ∈ s, c = '0')
    ⟨fun h => ⟨h.1, fun s hs => h.2 s ((List.mem_tails s a.tail).mpr hs)⟩,
      fun h => ⟨h.1, fun s hs => h.2 s ((List.mem_tails s a.tail).mp hs)⟩⟩

/-- A list of addresses as they are zeroed one after the other. -/
structure Zeroable (addresses : List Text) : Prop where
  nodup : addresses.Nodup
  nonzero : ∀ a ∈ addresses, ¬ ∀ c ∈ a, c = '0'
  shareZeros : ∀ a ∈ addresses, ∀ b ∈ addresses, ShareZeros a b

instance (addresses : List Text) : Decidable (Zeroable addresses) :=
  decidable_of_iff
    (addresses.Nodup ∧ (∀ a ∈ addresses, ¬ ∀ c ∈ a, c = '0') ∧
      ∀ a ∈ addresses, ∀ b ∈ addresses, ShareZeros a b)
    ⟨fun h => ⟨h.1, h.2.1, h.2.2⟩, fun h => ⟨h.1, h.2, h.3⟩⟩

theorem zeroable_absentAddresses (name : String) : Zeroable (absentAddresses name) := by
  apply forall_absentAddresses
  · decide
  · intro c
    cases c <;> decide +kernel

theorem Zeroable.ne_nil (h : Zeroable all) (ha : a ∈ all) : a ≠ [] := by
  rintro rfl
  apply h.nonzero [] ha
  intro c hc
  cases hc

theorem zero_of_overlap (hshare : ShareZeros a b) (ha : occursAt a t j = true)
    (hb : occursAt b t i = true) (hji : j < i) (hip : i ≤ p) (hpj : p < j + a.length) :
    t[p]? = some '0' := by
  have hlen := hshare.length_eq
  have hend := le_length_of_occursAt (List.ne_nil_of_length_pos (by omega)) ha
  -- What they have in common is an ending of the one and a beginning of the other.
  obtain ⟨s, hs⟩ : ∃ s, (t.drop i).take (j + a.length - i) = s := ⟨_, rfl⟩
  have hsize : s.length = j + a.length - i := by
    rw [← hs, List.length_take, List.length_drop]
    omega
  have hending : s <:+ a.tail := by
    have hwhole := suffix_of_occursAt ha (Nat.le_of_lt hji)
    rw [hs] at hwhole
    cases a with
    | nil => exact hwhole
    | cons c a =>
      rcases List.suffix_cons_iff.mp hwhole with rfl | hproper
      · rw [List.length_cons] at hsize hpj
        omega
      · exact hproper
  have hbeginning : s <+: b := by
    apply List.prefix_of_prefix_length_le (hs ▸ List.take_prefix _ _)
      (List.isPrefixOf_iff_prefix.mp hb)
    omega
  have hchar : s[p - i]? = t[p]? := by
    rw [← hs, List.getElem?_take_of_lt (by omega), List.getElem?_drop, Nat.add_sub_cancel' hip]
  have hk : p - i < s.length := by omega
  rw [← hchar, List.getElem?_eq_getElem hk, hshare.zero s hending hbeginning _ (List.getElem_mem hk)]

/-- **Where two addresses meet, the text shows a zero.** -/
theorem zero_of_common (hall : Zeroable all) (ha : a ∈ all) (hb : b ∈ all) (hne : a ≠ b)
    (hoa : occursAt a t j = true) (hob : occursAt b t i = true) (hjp : j ≤ p)
    (hpj : p < j + a.length) (hip : i ≤ p) (hpi : p < i + b.length) : t[p]? = some '0' := by
  rcases Nat.lt_trichotomy j i with hlt | rfl | hlt
  · exact zero_of_overlap (hall.shareZeros a ha b hb) hoa hob hlt hip hpj
  · exact absurd (eq_of_occursAt (hall.shareZeros a ha b hb).length_eq hoa hob) hne
  · exact zero_of_overlap (hall.shareZeros b hb a ha) hob hoa hlt hjp hpi

/-! ## One pass -/

/-- **A pass leaves other addresses where they stand.** -/
theorem occursAt_zeroAddress (hall : Zeroable all) (ha : a ∈ all) (hb : b ∈ all) (hne : a ≠ b)
    (h : occursAt b t i = true) : occursAt b (zeroAddress t a) i = true := by
  rw [occursAt_iff]
  intro k hk
  have hchar := occursAt_iff.mp h k hk
  by_cases hwritten : ∃ j ∈ select (occursAt a t) a.length t.length,
      j ≤ i + k ∧ i + k < j + a.length
  · obtain ⟨j, hj, hjk, hkj⟩ := hwritten
    have hzero := zero_of_common hall ha hb hne (mem_select.mp hj).2.1 h hjk hkj (by omega)
      (by omega)
    rw [getElem?_of_chosen (hall.ne_nil ha) hj hjk hkj, ← hzero, hchar]
  · rw [getElem?_of_not_chosen (hall.ne_nil ha) fun j hj hjk => hwritten ⟨j, hj, hjk⟩, hchar]

/-- What a pass does not write on stood there before. -/
theorem occursAt_of_zeroAddress (ha : a ≠ []) (h : occursAt b (zeroAddress t a) i = true)
    (hfar : ∀ j ∈ select (occursAt a t) a.length t.length, ∀ p, i ≤ p → p < i + b.length →
      ¬ (j ≤ p ∧ p < j + a.length)) : occursAt b t i = true := by
  rw [occursAt_iff]
  intro k hk
  rw [← occursAt_iff.mp h k hk, getElem?_of_not_chosen ha]
  intro j hj
  exact hfar j hj (i + k) (Nat.le_add_right i k) (Nat.add_lt_add_left hk i)

theorem zeroAddress_eq_self (ha : a ≠ []) (h : ¬ a <:+: t) : zeroAddress t a = t := by
  apply List.ext_getElem?
  intro p
  apply getElem?_of_not_chosen ha
  intro j hj _
  exact h (isInfix_iff_occursAt.mpr ⟨j, (mem_select.mp hj).2.1⟩)

/-! ## Completing an address -/

/-- An address shows between two texts when enough zeros stand there: it begins with zeros and the
text behind them goes on with the rest, or it ends with zeros and the text in front of them ends
with what comes before. -/
def Completed (b front back : Text) : Prop :=
  ∃ n < b.length, 0 < n ∧
    ((∀ c ∈ b.take n, c = '0') ∧ b.drop n <+: back ∨
      (∀ c ∈ b.drop n, c = '0') ∧ b.take n <:+ front)

instance (b front back : Text) : Decidable (Completed b front back) :=
  inferInstanceAs (Decidable (∃ n < b.length, _))

theorem Completed.isInfix (h : Completed b front back) (hm : b.length ≤ m) :
    b <:+: front ++ List.replicate m '0' ++ back := by
  obtain ⟨n, hn, -, ⟨hzeros, rest, rfl⟩ | ⟨hzeros, rest, rfl⟩⟩ := h
  · have htake : b.take n = List.replicate n '0' :=
      List.eq_replicate_iff.mpr ⟨by simp; omega, hzeros⟩
    refine ⟨front ++ List.replicate (m - n) '0', rest, ?_⟩
    rw [show m = m - n + n by omega, ← List.replicate_append_replicate, ← htake, Nat.add_sub_cancel]
    simp only [List.append_assoc]
    rw [← List.append_assoc (b.take n), List.take_append_drop]
  · have hdrop : b.drop n = List.replicate (b.length - n) '0' :=
      List.eq_replicate_iff.mpr ⟨by simp, hzeros⟩
    refine ⟨rest, List.replicate (m - (b.length - n)) '0' ++ back, ?_⟩
    rw [show m = (b.length - n) + (m - (b.length - n)) by omega,
      ← List.replicate_append_replicate, ← hdrop, Nat.add_sub_cancel_left]
    simp only [List.append_assoc]
    rw [← List.append_assoc (b.take n), List.take_append_drop]

/-- **An address that reaches into zeros as long as itself is completed by them.** -/
theorem completed_of_occursAt (hnonzero : ¬ ∀ c ∈ b, c = '0') (h : occursAt b t i = true)
    (hzeros : ∀ p, j ≤ p → p < j + b.length → t[p]? = some '0') (hip : i ≤ p)
    (hpi : p < i + b.length) (hjp : j ≤ p) (hpj : p < j + b.length) :
    Completed b (t.take j) (t.drop (j + b.length)) := by
  have hprefix : b <+: t.drop i := List.isPrefixOf_iff_prefix.mp h
  have hchar : ∀ k (hk : k < b.length), j ≤ i + k → i + k < j + b.length → b[k] = '0' := by
    intro k hk hjk hkj
    have hshown := occursAt_iff.mp h k hk
    rw [hzeros _ hjk hkj] at hshown
    exact (Option.some.inj hshown).symm
  rcases Nat.lt_trichotomy j i with hlt | rfl | hlt
  · -- The address begins inside the zeros and goes on behind them.
    refine ⟨j + b.length - i, by omega, by omega, .inl ⟨?_, ?_⟩⟩
    · intro c hc
      obtain ⟨k, hk, rfl⟩ := List.mem_iff_getElem.mp hc
      rw [List.getElem_take]
      simp only [List.length_take] at hk
      exact hchar k (by omega) (by omega) (by omega)
    · obtain ⟨rest, hrest⟩ := hprefix
      refine ⟨rest, ?_⟩
      rw [← List.drop_append_of_le_length (by omega), hrest, List.drop_drop,
        show i + (j + b.length - i) = j + b.length by omega]
  · refine absurd ?_ hnonzero
    intro c hc
    obtain ⟨k, hk, rfl⟩ := List.mem_iff_getElem.mp hc
    exact hchar k hk (by omega) (by omega)
  · -- It begins in front of them and ends inside.
    refine ⟨j - i, by omega, by omega, .inr ⟨?_, ?_⟩⟩
    · intro c hc
      obtain ⟨k, hk, rfl⟩ := List.mem_iff_getElem.mp hc
      rw [List.getElem_drop]
      simp only [List.length_drop] at hk
      exact hchar _ (by omega) (by omega) (by omega)
    · refine ⟨t.take i, ?_⟩
      have hfront : b.take (j - i) = (t.drop i).take (j - i) := by
        rw [List.prefix_iff_eq_take.mp hprefix, List.take_take, Nat.min_eq_left (by omega)]
      rw [hfront, ← List.take_add, show i + (j - i) = j by omega]

/-- An address that neither begins nor ends with a zero is never completed. -/
theorem not_completed (hfirst : b.head? ≠ some '0') (hlast : b.getLast? ≠ some '0') :
    ¬ Completed b front back := by
  rintro ⟨n, hn, hpos, ⟨hzeros, -⟩ | ⟨hzeros, -⟩⟩
  · have hhead : (b.take n).head? = some b[0] := by
      rw [List.head?_take, if_neg (by omega), List.head?_eq_getElem?, List.getElem?_eq_getElem]
    apply hfirst
    rw [← hzeros b[0] (List.mem_of_mem_head? hhead), List.head?_eq_getElem?,
      List.getElem?_eq_getElem]
  · have hend : (b.drop n).getLast? = b.getLast? := by
      rw [List.getLast?_drop, if_neg (by omega)]
    obtain ⟨c, hc⟩ := Option.isSome_iff_exists.mp
      (show (b.drop n).getLast?.isSome by simp [List.getLast?_isSome]; omega)
    apply hlast
    rw [← hend, hc, hzeros c (List.mem_of_mem_getLast? hc)]

/-! ## Restoring -/

/-- The pass of an address restores one of those whose turn is over: zeros that it writes complete
it. -/
def RestoredBy (done : List Text) (a t : Text) : Prop :=
  ∃ j ∈ select (occursAt a t) a.length t.length, ∃ b ∈ done,
    Completed b ((zeroAddress t a).take j) ((zeroAddress t a).drop (j + a.length))

instance (done : List Text) (a t : Text) : Decidable (RestoredBy done a t) :=
  inferInstanceAs (Decidable (∃ j ∈ select (occursAt a t) a.length t.length, _))

/-- One of the passes restores an address. -/
def Restored : List Text → List Text → Text → Prop
  | _, [], _ => False
  | done, a :: addresses, t =>
    RestoredBy (a :: done) a t ∨ Restored (a :: done) addresses (zeroAddress t a)

instance decidableRestored : ∀ done addresses t, Decidable (Restored done addresses t)
  | _, [], _ => inferInstanceAs (Decidable False)
  | done, a :: addresses, t =>
    have := decidableRestored (a :: done) addresses (zeroAddress t a)
    inferInstanceAs (Decidable (RestoredBy (a :: done) a t ∨
      Restored (a :: done) addresses (zeroAddress t a)))

theorem isInfix_of_restoredBy (hall : Zeroable all) (ha : a ∈ all) (hdone : done ⊆ all)
    (h : RestoredBy done a t) : ∃ b ∈ done, b <:+: zeroAddress t a := by
  obtain ⟨j, hj, b, hb, hcompleted⟩ := h
  have hne := hall.ne_nil ha
  have hend := le_length_of_occursAt hne (mem_select.mp hj).2.1
  have hrun : ((zeroAddress t a).drop j).take a.length = List.replicate a.length '0' := by
    apply List.ext_getElem?
    intro k
    by_cases hk : k < a.length
    · rw [List.getElem?_take_of_lt hk, List.getElem?_drop,
        getElem?_of_chosen hne hj (by omega) (by omega)]
      simp [hk]
    · rw [List.getElem?_eq_none (by simp; omega), List.getElem?_eq_none (by simp; omega)]
  refine ⟨b, hb, ?_⟩
  have hshown := hcompleted.isInfix (hall.shareZeros b (hdone hb) a ha).length_eq.le
  rwa [← hrun, ← List.take_add, List.take_append_drop] at hshown

/-- **What one pass leaves.** Of the addresses whose turn is over none is there behind it exactly if
none was there before and none is restored. -/
theorem free_zeroAddress_iff (hall : Zeroable all) (ha : a ∈ all) (hdone : done ⊆ all)
    (hnew : a ∉ done) :
    (∀ b ∈ a :: done, ¬ b <:+: zeroAddress t a) ↔
      (∀ b ∈ done, ¬ b <:+: t) ∧ ¬ RestoredBy (a :: done) a t := by
  have hover : a :: done ⊆ all := List.cons_subset.mpr ⟨ha, hdone⟩
  constructor
  · intro hfree
    constructor
    · intro b hb hinside
      obtain ⟨i, hi⟩ := isInfix_iff_occursAt.mp hinside
      have hne : a ≠ b := by
        rintro rfl
        exact hnew hb
      exact hfree b (List.mem_cons_of_mem a hb) (isInfix_iff_occursAt.mpr
        ⟨i, occursAt_zeroAddress hall ha (hdone hb) hne hi⟩)
    · intro hrestored
      obtain ⟨b, hb, hinside⟩ := isInfix_of_restoredBy hall ha hover hrestored
      exact hfree b hb hinside
  · rintro ⟨hbefore, hrestored⟩ b hb hinside
    obtain ⟨i, hi⟩ := isInfix_iff_occursAt.mp hinside
    have hlen := (hall.shareZeros a ha b (hover hb)).length_eq
    by_cases hreached : ∃ j ∈ select (occursAt a t) a.length t.length, ∃ p,
        i ≤ p ∧ p < i + b.length ∧ j ≤ p ∧ p < j + a.length
    · obtain ⟨j, hj, p, hip, hpi, hjp, hpj⟩ := hreached
      refine hrestored ⟨j, hj, b, hb, ?_⟩
      rw [hlen] at hpj ⊢
      refine completed_of_occursAt (hall.nonzero b (hover hb)) hi ?_ hip hpi hjp hpj
      intro q hjq hqj
      exact getElem?_of_chosen (hall.ne_nil ha) hj hjq (hlen ▸ hqj)
    · -- Nothing of the address is written, so it stood there before.
      have hkept : occursAt b t i = true := by
        apply occursAt_of_zeroAddress (hall.ne_nil ha) hi
        intro j hj p hip hpi hjp
        exact hreached ⟨j, hj, p, hip, hpi, hjp⟩
      rcases List.mem_cons.mp hb with rfl | hb
      · -- It would have been written over itself.
        have hpos := List.length_pos_iff.mpr (hall.ne_nil ha)
        have hend := le_length_of_occursAt (hall.ne_nil ha) hkept
        obtain ⟨j, hj, hji, hij⟩ := spans_iff.mp
          (spans_of_hit hpos hkept (show i < t.length by omega))
        exact hreached ⟨j, hj, i, Nat.le_refl i, by omega, hji, hij⟩
      · exact hbefore b hb (isInfix_iff_occursAt.mpr ⟨i, hkept⟩)

/-- **What all passes leave.** -/
theorem free_foldl_iff (hall : Zeroable all) (haddresses : addresses ⊆ all) (hdone : done ⊆ all)
    (hnodup : (addresses ++ done).Nodup) :
    (∀ b, b ∈ addresses ∨ b ∈ done → ¬ b <:+: addresses.foldl zeroAddress t) ↔
      (∀ b ∈ done, ¬ b <:+: t) ∧ ¬ Restored done addresses t := by
  -- On the addresses whose turn is still to come. Each pass moves one of them over to `done`.
  induction addresses generalizing done t with
  | nil => simp [Restored]
  | cons a addresses ih =>
    obtain ⟨ha, hrest⟩ := List.cons_subset.mp haddresses
    rw [List.cons_append, List.nodup_cons, List.mem_append, not_or] at hnodup
    obtain ⟨⟨hfresh, hnew⟩, hnodup⟩ := hnodup
    have hnext : (addresses ++ a :: done).Nodup := by
      rw [List.nodup_middle, List.nodup_cons, List.mem_append, not_or]
      exact ⟨⟨hfresh, hnew⟩, hnodup⟩
    have hover : a :: done ⊆ all := List.cons_subset.mpr ⟨ha, hdone⟩
    have hpass := free_zeroAddress_iff (t := t) hall ha hdone hnew
    have hpasses := ih (t := zeroAddress t a) hrest hover hnext
    -- The address has its turn over behind its pass.
    have hsame : ∀ b, b ∈ a :: addresses ∨ b ∈ done ↔ b ∈ addresses ∨ b ∈ a :: done := by
      intro b
      rw [List.mem_cons, List.mem_cons, or_assoc, or_left_comm]
    simp only [hsame, List.foldl_cons, hpasses, hpass, Restored, not_or, and_assoc]

/-! ## A second time -/

theorem foldl_zeroAddress_eq_self_iff (hall : Zeroable all) (haddresses : addresses ⊆ all) :
    addresses.foldl zeroAddress t = t ↔ ∀ a ∈ addresses, ¬ a <:+: t := by
  have hne : ∀ a ∈ addresses, a ≠ [] := fun a ha => hall.ne_nil (haddresses ha)
  induction addresses with
  | nil => simp
  | cons a addresses ih =>
    obtain ⟨ha, hrest⟩ := List.forall_mem_cons.mp hne
    obtain ⟨hmem, hsubset⟩ := List.cons_subset.mp haddresses
    by_cases hinside : a <:+: t
    · -- All of an occurrence is written over, and no later pass writes it back.
      refine iff_of_false (fun hsame => ?_) (fun hfree => hfree a List.mem_cons_self hinside)
      obtain ⟨i, hi⟩ := isInfix_iff_occursAt.mp hinside
      have hpos := List.length_pos_iff.mpr ha
      have hend := le_length_of_occursAt ha hi
      obtain ⟨j, hj, -⟩ := spans_iff.mp (spans_of_hit hpos hi (show i < t.length by omega))
      apply hall.nonzero a hmem
      intro c hc
      obtain ⟨k, hk, rfl⟩ := List.mem_iff_getElem.mp hc
      have hzero := getElem?_zeroAddresses hrest
        (getElem?_of_chosen ha hj (Nat.le_add_right j k) (by omega))
      rw [List.foldl_cons] at hsame
      rw [hsame, occursAt_iff.mp (mem_select.mp hj).2.1 k hk] at hzero
      exact Option.some.inj hzero
    · rw [List.foldl_cons, zeroAddress_eq_self ha hinside, List.forall_mem_cons]
      exact (ih hsubset hrest).trans (and_iff_right hinside).symm

/-! ## All addresses -/

/-- The position lies in an occurrence of an address in the text as it is when the address has its
turn. -/
def InTurn : List Text → Text → Nat → Prop
  | [], _, _ => False
  | a :: addresses, t, p =>
    (∃ j, occursAt a t j = true ∧ j ≤ p ∧ p < j + a.length) ∨ InTurn addresses (zeroAddress t a) p

theorem getElem?_foldl_zeroAddress (ha : ∀ a ∈ addresses, a ≠ []) (t : Text) (p : Nat) :
    (addresses.foldl zeroAddress t)[p]? = t[p]? ∨
      (addresses.foldl zeroAddress t)[p]? = some '0' ∧ InTurn addresses t p := by
  induction addresses generalizing t with
  | nil => exact .inl rfl
  | cons a addresses ih =>
    obtain ⟨hne, hrest⟩ := List.forall_mem_cons.mp ha
    rw [List.foldl_cons]
    rcases ih hrest (zeroAddress t a) with hsame | ⟨hzero, hturn⟩
    · by_cases hwritten : ∃ j ∈ select (occursAt a t) a.length t.length, j ≤ p ∧ p < j + a.length
      · obtain ⟨j, hj, hjp, hpj⟩ := hwritten
        rw [hsame, getElem?_of_chosen hne hj hjp hpj]
        exact .inr ⟨rfl, .inl ⟨j, (mem_select.mp hj).2.1, hjp, hpj⟩⟩
      · rw [hsame, getElem?_of_not_chosen hne fun j hj hjp => hwritten ⟨j, hj, hjp⟩]
        exact .inl rfl
    · exact .inr ⟨hzero, .inr hturn⟩

theorem byteSize_foldl_zeroAddress (ha : ∀ a ∈ addresses, Value a) (t : Text) :
    byteSize (addresses.foldl zeroAddress t) = byteSize t := by
  induction addresses generalizing t with
  | nil => rfl
  | cons a addresses ih =>
    obtain ⟨hvalue, hrest⟩ := List.forall_mem_cons.mp ha
    rw [List.foldl_cons, ih hrest, zeroAddress, byteSize_replaceAll]
    rw [byteSize_replicate, hvalue.digits.byteSize]
    exact Nat.mul_one _

/-- The one address of the smaller router neither begins nor ends with a zero. -/
theorem not_restored_router (t : Text) : ¬ Restored [] (absentAddresses "SwapRouter02") t := by
  rw [show absentAddresses "SwapRouter02" = [WellKnown.pairFactory] by decide]
  rintro (⟨j, -, b, hb, hcompleted⟩ | hnone)
  · rw [List.mem_singleton.mp hb] at hcompleted
    exact not_completed (by decide) (by decide) hcompleted
  · exact hnone

/-- **Zeroing keeps the size of a code and writes nothing but zeros over addresses. It leaves none
of them, and changes nothing when it is repeated, exactly if it restores none.** -/
theorem zeroing_complete_iff (hsome : absentAddresses name ≠ []) (code : Text) :
    let addresses := absentAddresses name
    let zeroed := zeroAbsentFeatures name code
    byteSize zeroed = byteSize code ∧
    (∀ p, zeroed[p]? = (Text.lower code)[p]? ∨
      zeroed[p]? = some '0' ∧ InTurn addresses (Text.lower code) p) ∧
    ((∀ a ∈ addresses, ¬ a <:+: zeroed) ↔ ¬ Restored [] addresses (Text.lower code)) ∧
    (zeroAbsentFeatures name zeroed = zeroed ↔ ¬ Restored [] addresses (Text.lower code)) ∧
    (name = "SwapRouter02" → ¬ Restored [] addresses (Text.lower code)) := by
  intro addresses zeroed
  have hzeroed : zeroed = addresses.foldl zeroAddress (Text.lower code) := by
    show zeroAbsentFeatures name code = _
    rw [zeroAbsentFeatures_eq, if_neg hsome]
  have hvalue : ∀ a ∈ addresses, Value a := fun a => value_of_mem_absentAddresses
  have hne : ∀ a ∈ addresses, a ≠ [] := fun a ha => (hvalue a ha).ne_nil
  have hall : Zeroable addresses := zeroable_absentAddresses name
  have hfree : (∀ a ∈ addresses, ¬ a <:+: zeroed) ↔
      ¬ Restored [] addresses (Text.lower code) := by
    have hpasses := free_foldl_iff (t := Text.lower code) hall (List.Subset.refl _)
      (List.nil_subset _) (by simpa using hall.nodup)
    rw [hzeroed]
    simpa using hpasses
  -- What is zeroed is small already, so a second run is the same passes once more.
  have hsecond : zeroAbsentFeatures name zeroed = addresses.foldl zeroAddress zeroed := by
    rw [zeroAbsentFeatures_eq, if_neg hsome, hzeroed, lower_zeroAddresses hne (lower_lower _)]
  refine ⟨?_, ?_, hfree, ?_, ?_⟩
  · rw [hzeroed, byteSize_foldl_zeroAddress hvalue, byteSize_lower]
  · rw [hzeroed]
    exact getElem?_foldl_zeroAddress hne (Text.lower code)
  · rw [hsecond, foldl_zeroAddress_eq_self_iff hall (List.Subset.refl _), hfree]
  · rintro rfl
    exact not_restored_router _

/-- A code with all three addresses in it comes out as zeros. -/
theorem zeroing_complete_iff_router :
    let code := "0x".toList ++ WellKnown.poolManager ++ WellKnown.pairFactory ++
      WellKnown.singletonPositionManager
    let zeroed := zeroAbsentFeatures "UniversalRouter" code
    zeroed = "0x".toList ++ List.replicate 120 '0' ∧ byteSize zeroed = byteSize code ∧
      (∀ a ∈ absentAddresses "UniversalRouter", ¬ a <:+: zeroed) ∧
      zeroAbsentFeatures "UniversalRouter" zeroed = zeroed := by
  intro code zeroed
  obtain ⟨hsize, -, hfree, hsecond, -⟩ := zeroing_complete_iff
    (show absentAddresses "UniversalRouter" ≠ [] by decide) code
  have hrestored : ¬ Restored [] (absentAddresses "UniversalRouter") (Text.lower code) := by
    decide +kernel
  exact ⟨by decide +kernel, hsize, hfree.mpr hrestored, hsecond.mpr hrestored⟩

/-- An address with a second one on its last digit is restored, and zeroing it again makes a
difference. Behind a zeroed address the rest of the next one is completed and zeroed though the code
held no other address there. -/
theorem zeroed_not_free :
    let zeroed := zeroAbsentFeatures "UniversalRouter"
    let twice := WellKnown.poolManager ++ WellKnown.poolManager.tail
    let joined := WellKnown.poolManager ++ WellKnown.singletonPositionManager.drop 8
    (WellKnown.poolManager <:+: zeroed twice ∧ zeroed (zeroed twice) ≠ zeroed twice) ∧
      Text.lower joined = joined ∧
      (∀ a ∈ absentAddresses "UniversalRouter", ∀ j ≤ 40,
        occursAt a joined j = true → j + a.length ≤ 40) ∧
      joined[40]? = some 'b' ∧ (zeroed joined)[40]? = some '0' := by
  decide +kernel

end BytecodeParity.Code
