import BytecodeParity.Proofs.Code.Trailer
/-!
# Zeroing and cutting in either order

The reference code of a contract with absent features is zeroed first and cut afterwards. Were the
order free, either could be proved of one pass without a thought for the other. It is free on most
codes and not on all, for two reasons:

* An address can stand across the cut. Zeroed first, it leaves zeros in front of the cut; cut
  first, it leaves the digits of an address that is none any more.
* An address can end inside the last four characters. Its zeros can make a length field of them
  that was none before, and then zeroing first makes the cut take code away.

`Torn` names the first, and a change of `cutSize` is the second. **There is no third**
(`strip_zero_comm_iff`). Two facts about the addresses themselves make the equivalence exact, both
checked on the addresses once: none of them ends the way another begins behind its leading zeros
(`Apart`), so a torn address cannot be zeroed by a later pass; and none of them ends on two zeros
and more digits (`EndsClear`), so a length field that is plausible already is left alone.
-/

namespace BytecodeParity.Code

open Hex Text

variable {a v t : Text} {cut i n q : Nat} {addresses : List Text}

/-! ## Facts about the addresses -/

/-- What is left of an address behind its leading zeros. -/
def significant (a : Text) : Text := a.dropWhile (· == '0')

/-- What `a` begins with behind its leading zeros, short of all of it, is no ending of `v`, which is
at least as long. -/
structure Apart (a v : Text) : Prop where
  length_le : (significant a).length ≤ v.length
  not_suffix : ∀ n < (significant a).length, 0 < n → ¬ (significant a).take n <:+ v

instance (a v : Text) : Decidable (Apart a v) :=
  decidable_of_iff
    ((significant a).length ≤ v.length ∧
      ∀ n < (significant a).length, 0 < n → ¬ (significant a).take n <:+ v)
    ⟨fun h => ⟨h.1, h.2⟩, fun h => ⟨h.1, h.2⟩⟩

/-- `v` is as long as a length field, and none of its endings of two to four characters begins with
two zeros. -/
structure EndsClear (v : Text) : Prop where
  le_length : lengthFieldSize ≤ v.length
  not_prefix : ∀ n ≤ lengthFieldSize, 2 ≤ n → ¬ ['0', '0'] <+: v.drop (v.length - n)

instance (v : Text) : Decidable (EndsClear v) :=
  decidable_of_iff
    (lengthFieldSize ≤ v.length ∧
      ∀ n ≤ lengthFieldSize, 2 ≤ n → ¬ ['0', '0'] <+: v.drop (v.length - n))
    ⟨fun h => ⟨h.1, h.2⟩, fun h => ⟨h.1, h.2⟩⟩

theorem apart_of_mem {name : String} (ha : a ∈ absentAddresses name)
    (hv : v ∈ absentAddresses name) : Apart a v := by
  have hall : ∀ a ∈ absentAddresses name, ∀ v ∈ absentAddresses name, Apart a v := by
    apply forall_absentAddresses (P := fun l => ∀ a ∈ l, ∀ v ∈ l, Apart a v)
    · exact fun a ha => nomatch ha
    · intro c
      cases c <;> decide +kernel
  exact hall a ha v hv

theorem endsClear_of_mem {name : String} (ha : a ∈ absentAddresses name) : EndsClear a := by
  have hall : ∀ a ∈ absentAddresses name, EndsClear a := by
    apply forall_absentAddresses (P := fun l => ∀ a ∈ l, EndsClear a)
    · exact fun a ha => nomatch ha
    · intro c
      cases c <;> decide +kernel
  exact hall a ha

/-! ## One address -/

theorem zeroAddress_eq_paint (ha : a ≠ []) :
    zeroAddress t a =
      paint '0' (spans (select (occursAt a t) a.length t.length) a.length) t :=
  replaceAll_eq_paint ha

theorem length_zeroAddress (ha : a ≠ []) : (zeroAddress t a).length = t.length := by
  rw [zeroAddress_eq_paint ha, length_paint]

/-- What a pass writes. -/
theorem getElem?_of_chosen {j : Nat} (ha : a ≠ [])
    (hj : j ∈ select (occursAt a t) a.length t.length) (hji : j ≤ i) (hij : i < j + a.length) :
    (zeroAddress t a)[i]? = some '0' := by
  have hend := le_length_of_occursAt ha (mem_select.mp hj).2.1
  have hon : spans (select (occursAt a t) a.length t.length) a.length i = true :=
    spans_iff.mpr ⟨j, hj, hji, hij⟩
  rw [zeroAddress_eq_paint ha, getElem?_paint, hon, List.getElem?_eq_getElem (by omega)]
  rfl

/-- What a pass keeps. -/
theorem getElem?_of_not_chosen (ha : a ≠ [])
    (h : ∀ j ∈ select (occursAt a t) a.length t.length, ¬ (j ≤ i ∧ i < j + a.length)) :
    (zeroAddress t a)[i]? = t[i]? := by
  have hoff : spans (select (occursAt a t) a.length t.length) a.length i = false := by
    rw [← Bool.not_eq_true, spans_iff]
    rintro ⟨j, hj, hin⟩
    exact h j hj hin
  rw [zeroAddress_eq_paint ha, getElem?_paint, hoff]
  simp

/-- An occurrence that is zeroed stands across a cut, with a character other than 0 in front. -/
def TornBy (a t : Text) (cut : Nat) : Prop :=
  ∃ j ∈ select (occursAt a t) a.length t.length, j < cut ∧ cut < j + a.length ∧
    ∃ i < cut, j ≤ i ∧ t[i]? ≠ some '0'

instance (a t : Text) (cut : Nat) : Decidable (TornBy a t cut) :=
  inferInstanceAs (Decidable (∃ j ∈ select (occursAt a t) a.length t.length, _))

/-- **Unless an occurrence is torn, one address is zeroed in front of a cut as in the whole.** -/
theorem take_zeroAddress (ha : a ≠ []) (h : ¬ TornBy a t cut) :
    (zeroAddress t a).take cut = zeroAddress (t.take cut) a := by
  rw [zeroAddress_eq_paint ha, zeroAddress_eq_paint ha, take_paint]
  refine paint_congr fun i x hx => ?_
  have hcut : i < cut := by
    by_contra hge
    rw [List.getElem?_take, if_neg hge] at hx
    cases hx
  have htext : t[i]? = some x := by
    rw [← hx, List.getElem?_take_of_lt hcut]
  by_cases hwhole : ∃ j ∈ select (occursAt a t) a.length t.length,
      (j ≤ i ∧ i < j + a.length) ∧ cut < j + a.length
  · -- The occurrence reaches over the cut. It is not torn, so it shows a zero here.
    right
    obtain ⟨j, hj, ⟨hji, hij⟩, hover⟩ := hwhole
    by_contra hne
    refine h ⟨j, hj, by omega, hover, i, hcut, hji, ?_⟩
    rw [htext]
    exact fun heq => hne (Option.some.inj heq)
  · -- All occurrences that matter end in front of the cut.
    left
    rw [Bool.eq_iff_iff, spans_iff, spans_iff]
    constructor
    · rintro ⟨j, hj, hji, hij⟩
      have hend : j + a.length ≤ cut := by
        by_contra hover
        exact hwhole ⟨j, hj, ⟨hji, hij⟩, by omega⟩
      exact ⟨j, (mem_select_take ha).mpr ⟨hj, hend⟩, hji, hij⟩
    · rintro ⟨j, hj, hji, hij⟩
      exact ⟨j, ((mem_select_take ha).mp hj).1, hji, hij⟩

/-- A zero is never written over. -/
theorem getElem?_zeroAddress (ha : a ≠ []) (h : t[i]? = some '0') :
    (zeroAddress t a)[i]? = some '0' := by
  rw [zeroAddress_eq_paint ha, getElem?_paint, h]
  simp

/-- Behind all occurrences of an address the text is left alone. -/
theorem drop_zeroAddress_of_le (hv : v ≠ [])
    (h : ∀ j, occursAt v t j = true → j + v.length ≤ q) :
    (zeroAddress t v).drop q = t.drop q := by
  refine List.ext_getElem? fun k => ?_
  rw [List.getElem?_drop, List.getElem?_drop]
  apply getElem?_of_not_chosen hv
  rintro j hj ⟨-, hin⟩
  have := h j (mem_select.mp hj).2.1
  omega

/-- What begins like `a` behind its zeros is left alone at the end of a text by all addresses that
are apart from `a`: no occurrence reaches into it. -/
theorem drop_zeroAddress (hv : v ≠ []) (hapart : Apart a v) (hn : n < (significant a).length)
    (hlen : t.length = q + n) (htail : t.drop q = (significant a).take n) :
    (zeroAddress t v).drop q = t.drop q := by
  apply drop_zeroAddress_of_le hv
  intro j hj
  by_contra hover
  have hend := le_length_of_occursAt hv hj
  have hle := hapart.length_le
  have hsuffix := suffix_of_occursAt hj (q := q) (by omega)
  rw [htail, List.take_take, Nat.min_eq_left (by omega)] at hsuffix
  exact hapart.not_suffix _ (by omega) (by omega) hsuffix

/-- **What a torn occurrence leaves behind**: zeros in the whole, and in front of the cut what the
address begins with behind its own zeros. -/
theorem TornBy.exists_tail (ha : a ≠ []) (h : TornBy a t cut) :
    ∃ q n, cut = q + n ∧ cut ≤ t.length ∧ 0 < n ∧ n < (significant a).length ∧
      (t.take cut).drop q = (significant a).take n ∧ (zeroAddress t a)[q]? = some '0' := by
  obtain ⟨j, hj, hjcut, hcut, i, hicut, hji, hi⟩ := h
  have hocc := (mem_select.mp hj).2.1
  have hend := le_length_of_occursAt ha hocc
  have hsplit : a.takeWhile (· == '0') ++ significant a = a := List.takeWhile_append_dropWhile
  have hlen := congrArg List.length hsplit
  rw [List.length_append] at hlen
  -- The character that is no 0 lies behind the leading zeros of the address.
  have hzeros : (a.takeWhile (· == '0')).length ≤ i - j := by
    by_contra hlt
    have hk : i - j < a.length := by omega
    have htext := occursAt_iff.mp hocc (i - j) hk
    rw [show j + (i - j) = i by omega] at htext
    apply hi
    rw [htext, ← List.getElem?_eq_getElem hk, ← hsplit,
      List.getElem?_append_left (by omega), List.getElem?_eq_getElem (by omega)]
    have hmem := List.getElem_mem (l := a.takeWhile (· == '0')) (n := i - j) (by omega)
    have hzero := List.all_eq_true.mp List.all_takeWhile _ hmem
    rw [eq_of_beq hzero]
  refine ⟨j + (a.takeWhile (· == '0')).length, cut - (j + (a.takeWhile (· == '0')).length),
    by omega, by omega, by omega, by omega, ?_, ?_⟩
  · obtain ⟨rest, hrest⟩ := List.isPrefixOf_iff_prefix.mp hocc
    have hparts : a.takeWhile (· == '0') ++ (significant a ++ rest) = t.drop j := by
      rw [← List.append_assoc, hsplit, hrest]
    have hbehind : t.drop (j + (a.takeWhile (· == '0')).length) = significant a ++ rest := by
      rw [← List.drop_drop, ← hparts, List.drop_left]
    rw [List.drop_take, hbehind, List.take_append_of_le_length (by omega)]
  · exact getElem?_of_chosen ha hj (by omega) (by omega)

/-! ## One address after the other -/

/-- An address is torn when its turn comes. -/
def Torn : List Text → Text → Nat → Prop
  | [], _, _ => False
  | a :: addresses, t, cut => TornBy a t cut ∨ Torn addresses (zeroAddress t a) cut

instance decidableTorn : ∀ addresses t cut, Decidable (Torn addresses t cut)
  | [], _, _ => inferInstanceAs (Decidable False)
  | a :: addresses, t, cut =>
    have := decidableTorn addresses (zeroAddress t a) cut
    inferInstanceAs (Decidable (TornBy a t cut ∨ Torn addresses (zeroAddress t a) cut))

theorem getElem?_zeroAddresses (ha : ∀ a ∈ addresses, a ≠ []) (h : t[i]? = some '0') :
    (addresses.foldl zeroAddress t)[i]? = some '0' := by
  induction addresses generalizing t with
  | nil => exact h
  | cons a addresses ih =>
    exact ih (fun b hb => ha b (List.mem_cons_of_mem a hb))
      (getElem?_zeroAddress (ha a List.mem_cons_self) h)

theorem drop_zeroAddresses (hv : ∀ v ∈ addresses, v ≠ [] ∧ Apart a v)
    (hn : n < (significant a).length) (hlen : t.length = q + n)
    (htail : t.drop q = (significant a).take n) :
    (addresses.foldl zeroAddress t).drop q = (significant a).take n := by
  induction addresses generalizing t with
  | nil => exact htail
  | cons v addresses ih =>
    obtain ⟨hne, hapart⟩ := hv v List.mem_cons_self
    apply ih fun w hw => hv w (List.mem_cons_of_mem v hw)
    · rw [length_zeroAddress hne, hlen]
    · rw [drop_zeroAddress hne hapart hn hlen htail, htail]

/-- A torn address shows: behind the cut it is zeroed by its own pass, and in front of it by none. -/
theorem TornBy.take_ne (ha : a ≠ [] ∧ Apart a a) (hv : ∀ v ∈ addresses, v ≠ [] ∧ Apart a v)
    (h : TornBy a t cut) :
    ((a :: addresses).foldl zeroAddress t).take cut ≠
      (a :: addresses).foldl zeroAddress (t.take cut) := by
  obtain ⟨q, n, rfl, hle, hpos, hn, htail, hzero⟩ := h.exists_tail ha.1
  have hall : ∀ v ∈ a :: addresses, v ≠ [] ∧ Apart a v := List.forall_mem_cons.mpr ⟨ha, hv⟩
  have hlen : (t.take (q + n)).length = q + n := by
    rw [List.length_take, Nat.min_eq_left hle]
  have hkept := drop_zeroAddresses hall hn hlen htail
  have hwhole : ((a :: addresses).foldl zeroAddress t)[q]? = some '0' := by
    rw [List.foldl_cons]
    exact getElem?_zeroAddresses (fun v hmem => (hv v hmem).1) hzero
  intro heq
  -- Position `q` is a zero on the left and the first digit behind the zeros on the right.
  have hfront : ((significant a).take n)[0]? = some '0' := by
    rw [← hkept, List.getElem?_drop, Nat.add_zero, ← heq, List.getElem?_take_of_lt (by omega),
      hwhole]
  rw [List.getElem?_take_of_lt hpos, ← List.head?_eq_getElem?] at hfront
  have hnot := List.head?_dropWhile_not (· == '0') a
  rw [show a.dropWhile (· == '0') = significant a from rfl, hfront] at hnot
  simp at hnot

/-- **Zeroing is the same in front of a cut as in the whole exactly if nothing is torn.** -/
theorem take_zeroAddresses_iff (t : Text) (cut : Nat) (ha : ∀ a ∈ addresses, a ≠ [])
    (hapart : ∀ a ∈ addresses, ∀ v ∈ addresses, Apart a v) :
    (addresses.foldl zeroAddress t).take cut = addresses.foldl zeroAddress (t.take cut) ↔
      ¬ Torn addresses t cut := by
  induction addresses generalizing t with
  | nil => exact iff_of_true rfl id
  | cons a addresses ih =>
    have hself := List.mem_cons_self (a := a) (l := addresses)
    have hrest : ∀ {v}, v ∈ addresses → v ∈ a :: addresses := List.mem_cons_of_mem a
    by_cases htorn : TornBy a t cut
    · refine iff_of_false ?_ (not_not.mpr (Or.inl htorn))
      exact htorn.take_ne ⟨ha a hself, hapart a hself a hself⟩ fun v hv =>
        ⟨ha v (hrest hv), hapart a hself v (hrest hv)⟩
    · have hnext := ih (zeroAddress t a) (fun b hb => ha b (hrest hb))
        fun b hb v hv => hapart b (hrest hb) v (hrest hv)
      rw [Torn, List.foldl_cons, List.foldl_cons, ← take_zeroAddress (ha a hself) htorn, hnext]
      simp only [htorn, false_or]

/-! ## The length field -/

/-- A plausible length has two leading zeros. -/
theorem prefix_lengthField (ht : Digits t) (hlen : lengthFieldSize ≤ t.length)
    (hbelow : declared t < metadataLimit) :
    ['0', '0'] <+: t.drop (t.length - lengthFieldSize) := by
  have hfield : (t.drop (t.length - lengthFieldSize)).length = 4 := by
    rw [List.length_drop]
    exact Nat.sub_sub_self hlen
  have hdigits : Digits (t.drop (t.length - lengthFieldSize)) :=
    ht.sublist (List.drop_sublist _ _)
  unfold declared at hbelow
  match hd : t.drop (t.length - lengthFieldSize), hfield with
  | [x, y, z, w], _ =>
    rw [hd] at hbelow hdigits
    simp only [Numeral.value, Numeral.valueAfter, List.foldl_cons, List.foldl_nil,
      metadataLimit] at hbelow
    have hzero : ∀ {c : Char}, isDigit c = true →
        (Numeral.digitValue? 16 c).getD 0 = 0 → c = '0' := fun hc =>
      of_digit (P := fun c => (Numeral.digitValue? 16 c).getD 0 = 0 → c = '0') (by decide) hc
    have hx := hzero (hdigits x (by simp)) (by omega)
    have hy := hzero (hdigits y (by simp)) (by omega)
    rw [hx, hy]
    exact ⟨[z, w], rfl⟩

/-- **A plausible length field is left alone.** An occurrence can end on its first zero at most. -/
theorem drop_zeroAddress_lengthField (hv : v ≠ []) (hclear : EndsClear v) (ht : Digits t)
    (hlen : lengthFieldSize ≤ t.length) (hbelow : declared t < metadataLimit) :
    (zeroAddress t v).drop (t.length - lengthFieldSize) =
      t.drop (t.length - lengthFieldSize) := by
  have hzeros := prefix_lengthField ht hlen hbelow
  obtain ⟨q, hq⟩ : ∃ q, t.length - lengthFieldSize = q := ⟨_, rfl⟩
  rw [hq] at hzeros ⊢
  have hreach : ∀ j, occursAt v t j = true → j + v.length ≤ q + 1 := by
    intro j hj
    by_contra hover
    have hend := le_length_of_occursAt hv hj
    have hle := hclear.le_length
    have hsuffix := suffix_of_occursAt hj (q := q) (by omega)
    have hsize : ((t.drop q).take (j + v.length - q)).length = j + v.length - q := by
      rw [List.length_take, List.length_drop]
      omega
    rw [List.suffix_iff_eq_drop, hsize] at hsuffix
    refine hclear.not_prefix (j + v.length - q) (by omega) (by omega) ?_
    rw [← hsuffix, List.prefix_take_iff]
    exact ⟨hzeros, by simp only [List.length_cons, List.length_nil]; omega⟩
  -- Only the first character can be written over, and it is a zero already.
  have hbehind := drop_zeroAddress_of_le hv hreach
  have hfirst : t[q]? = some '0' := by
    obtain ⟨rest, hrest⟩ := hzeros
    have hhead : (t.drop q)[0]? = t[q + 0]? := List.getElem?_drop
    rw [← hrest] at hhead
    exact hhead.symm
  refine List.ext_getElem? fun k => ?_
  cases k with
  | zero =>
    rw [List.getElem?_drop, List.getElem?_drop, Nat.add_zero, hfirst]
    exact getElem?_zeroAddress hv hfirst
  | succ k =>
    have hnext := congrArg (fun s : Text => s[k]?) hbehind
    simp only [List.getElem?_drop] at hnext ⊢
    rw [Nat.add_right_comm q 1 k] at hnext
    exact hnext

theorem declared_zeroAddress (hv : v ≠ []) (hclear : EndsClear v) (ht : Digits t)
    (hlen : lengthFieldSize ≤ t.length) (hbelow : declared t < metadataLimit) :
    declared (zeroAddress t v) = declared t := by
  rw [declared, declared, length_zeroAddress hv,
    drop_zeroAddress_lengthField hv hclear ht hlen hbelow]

/-- What a cut takes off says that there is a plausible length field. -/
theorem bounds_of_cutSize (ht : Digits t) (hcut : 0 < cutSize t) :
    lengthFieldSize ≤ t.length ∧ declared t < metadataLimit := by
  rw [cutSize_of_digits ht] at hcut
  split at hcut
  next h => exact ⟨by omega, h.2.1⟩
  · exact absurd hcut (Nat.lt_irrefl 0)

/-- **What is cut off is not changed by zeroing**, if there is something to cut off. -/
theorem cutSize_zeroAddresses (ha : ∀ a ∈ addresses, Value a ∧ EndsClear a) (ht : Digits t)
    (hcut : 0 < cutSize t) : cutSize (addresses.foldl zeroAddress t) = cutSize t := by
  induction addresses generalizing t with
  | nil => rfl
  | cons a addresses ih =>
    obtain ⟨hvalue, hclear⟩ := ha a List.mem_cons_self
    obtain ⟨hdigits, hlength⟩ := zeroAddress_digits hvalue ht
    obtain ⟨hlen, hbelow⟩ := bounds_of_cutSize ht hcut
    have hsame : cutSize (zeroAddress t a) = cutSize t := by
      rw [cutSize_of_digits hdigits, cutSize_of_digits ht, hlength,
        declared_zeroAddress hvalue.ne_nil hclear ht hlen hbelow]
    rw [List.foldl_cons, ih (fun b hb => ha b (List.mem_cons_of_mem a hb)) hdigits
      (by rw [hsame]; exact hcut), hsame]

/-- Small letters declare what capital letters declare. -/
theorem cutSize_lower (ht : Digits t) : cutSize (Text.lower t) = cutSize t := by
  have hdeclared : declared (Text.lower t) = declared t := by
    rw [declared, declared, length_lower, Text.lower, ← List.map_drop]
    exact Numeral.value_lower 16 _
  rw [cutSize_of_digits ht.lower, cutSize_of_digits ht, hdeclared, length_lower]

/-! ## Both orders -/

variable {name : String} {code : Text}

theorem cutSize_le_length (t : Text) : cutSize t ≤ t.length := by
  unfold cutSize
  split
  · split
    next hlt => exact Nat.le_of_lt hlt
    · exact Nat.zero_le _
  · exact Nat.zero_le _

/-- Zeros are small. -/
theorem lower_zeroAddresses (ha : ∀ a ∈ addresses, a ≠ []) (ht : Text.lower t = t) :
    Text.lower (addresses.foldl zeroAddress t) = addresses.foldl zeroAddress t := by
  induction addresses generalizing t with
  | nil => exact ht
  | cons a addresses ih =>
    apply ih fun b hb => ha b (List.mem_cons_of_mem a hb)
    rw [zeroAddress_eq_paint (ha a List.mem_cons_self), lower_paint, ht]
    rfl

/-- The small body of a code with the addresses of absent features zeroed. -/
def zeroedBody (name : String) (code : Text) : Text :=
  (absentAddresses name).foldl zeroAddress (Text.lower (body code))

theorem zeroedBody_digits (name : String) (h : Digits (body code)) :
    Digits (zeroedBody name code) ∧ (zeroedBody name code).length = (body code).length := by
  have hvalue : ∀ a ∈ absentAddresses name, Value a := fun a => value_of_mem_absentAddresses
  obtain ⟨hdigits, hlength⟩ := zeroAddresses_digits hvalue h.lower
  rw [length_lower] at hlength
  exact ⟨hdigits, hlength⟩

theorem body_eq_zeroedBody (h : Digits (body code)) (hsome : absentAddresses name ≠ []) :
    body (zeroAbsentFeatures name code) = zeroedBody name code := by
  rw [body_zeroAbsentFeatures h, if_neg hsome, zeroedBody]

theorem mark_lower_cases (code : Text) :
    Text.lower (splitMark code).1 = [] ∨ Text.lower (splitMark code).1 = ['0', 'x'] ∨
      Text.lower (splitMark code).1 = ['0', 'X'] := by
  rcases mark_cases code with hm | hm | hm <;> rw [hm] <;> decide

/-- Zeroed first and cut afterwards. -/
theorem stripMetadata_zeroAbsentFeatures (h : Digits (body code))
    (hsome : absentAddresses name ≠ []) :
    stripMetadata (zeroAbsentFeatures name code) =
      Text.lower (splitMark code).1 ++
        (zeroedBody name code).take ((body code).length - cutSize (zeroedBody name code)) := by
  obtain ⟨hdigits, hlength⟩ := zeroedBody_digits name h
  have hbody := body_eq_zeroedBody h hsome
  have hmark : (splitMark (zeroAbsentFeatures name code)).1 = Text.lower (splitMark code).1 := by
    rw [zeroAbsentFeatures_eq_append, if_neg hsome]
    exact congrArg Prod.fst (hdigits.splitMark_append (mark_lower_cases code))
  rw [stripMetadata_of_digits (by rw [hbody]; exact hdigits), hbody, hmark, hlength]

/-- Cut first and zeroed afterwards. -/
theorem zeroAbsentFeatures_stripMetadata (h : Digits (body code))
    (hsome : absentAddresses name ≠ []) :
    zeroAbsentFeatures name (stripMetadata code) =
      Text.lower (splitMark code).1 ++ (absentAddresses name).foldl zeroAddress
        ((Text.lower (body code)).take ((body code).length - cutSize (body code))) := by
  have hkept : Digits ((body code).take ((body code).length - cutSize (body code))) :=
    h.sublist (List.take_sublist _ _)
  have hsplit : splitMark (stripMetadata code) =
      ((splitMark code).1, (body code).take ((body code).length - cutSize (body code))) := by
    rw [stripMetadata_of_digits h]
    exact hkept.splitMark_append (mark_cases code)
  have hbody : body (stripMetadata code) =
      (body code).take ((body code).length - cutSize (body code)) := congrArg Prod.snd hsplit
  rw [zeroAbsentFeatures_eq_append, if_neg hsome, hsplit, hbody, lower_take]

theorem cutSize_zeroedBody (h : Digits (body code)) (hcut : 0 < cutSize (body code)) :
    cutSize (zeroedBody name code) = cutSize (body code) := by
  rw [← cutSize_lower h] at hcut ⊢
  refine cutSize_zeroAddresses (fun a ha => ⟨?_, endsClear_of_mem ha⟩) h.lower hcut
  exact value_of_mem_absentAddresses ha

/-- What the two orders leave of a body is the same exactly if the cut is and nothing is torn. -/
theorem take_zeroedBody_iff (h : Digits (body code)) :
    (zeroedBody name code).take ((body code).length - cutSize (zeroedBody name code)) =
        (absentAddresses name).foldl zeroAddress
          ((Text.lower (body code)).take ((body code).length - cutSize (body code))) ↔
      cutSize (zeroedBody name code) = cutSize (body code) ∧
        ¬ Torn (absentAddresses name) (Text.lower (body code))
          ((body code).length - cutSize (body code)) := by
  have hvalue : ∀ a ∈ absentAddresses name, Value a := fun a => value_of_mem_absentAddresses
  have htorn := take_zeroAddresses_iff (Text.lower (body code))
    ((body code).length - cutSize (body code)) (fun a ha => (hvalue a ha).ne_nil)
    fun a ha v hv => apart_of_mem ha hv
  obtain ⟨-, hlength⟩ := zeroedBody_digits name h
  rw [← htorn]
  constructor
  · intro heq
    have hkept : Digits ((Text.lower (body code)).take
        ((body code).length - cutSize (body code))) :=
      h.lower.sublist (List.take_sublist _ _)
    -- Both passes keep the length, so the two cuts are of one size.
    have hsizes := congrArg List.length heq
    rw [(zeroAddresses_digits hvalue hkept).2, List.length_take, List.length_take, hlength,
      length_lower] at hsizes
    have hle := cutSize_le_length (zeroedBody name code)
    have hle' := cutSize_le_length (body code)
    have hcut : cutSize (zeroedBody name code) = cutSize (body code) := by omega
    rw [hcut] at heq
    exact ⟨hcut, heq⟩
  · rintro ⟨hcut, heq⟩
    rw [hcut]
    exact heq

/-- **The two orders agree up to case exactly if zeroing leaves the size of the cut alone and no
address is torn by it.** The size stays if something is to be cut off before zeroing, and if zeroing
leaves the last four characters alone. -/
theorem strip_zero_comm_iff (name : String) (h : Digits (body code)) :
    let zeroed := body (zeroAbsentFeatures name code)
    (Text.lower (stripMetadata (zeroAbsentFeatures name code)) =
        Text.lower (zeroAbsentFeatures name (stripMetadata code)) ↔
      cutSize zeroed = cutSize (body code) ∧
        ¬ Torn (absentAddresses name) (Text.lower (body code))
          ((body code).length - cutSize (body code))) ∧
    (0 < cutSize (body code) → cutSize zeroed = cutSize (body code)) ∧
    (Text.lower (zeroed.drop (zeroed.length - lengthFieldSize)) =
        Text.lower ((body code).drop ((body code).length - lengthFieldSize)) →
      cutSize zeroed = cutSize (body code)) := by
  intro zeroed
  by_cases hnone : absentAddresses name = []
  · -- Nothing is zeroed.
    have hid : ∀ t, zeroAbsentFeatures name t = t := fun t => by
      rw [zeroAbsentFeatures_eq, if_pos hnone]
    have hsame : zeroed = body code := congrArg body (hid code)
    rw [hid, hid, hnone, hsame]
    exact ⟨iff_of_true rfl ⟨rfl, id⟩, fun _ => rfl, fun _ => rfl⟩
  · have hne : ∀ a ∈ absentAddresses name, a ≠ [] := fun a ha =>
      (value_of_mem_absentAddresses ha).ne_nil
    have hzeroed : zeroed = zeroedBody name code := body_eq_zeroedBody h hnone
    obtain ⟨hdigits, hlength⟩ := zeroedBody_digits name h
    rw [hzeroed]
    refine ⟨?_, cutSize_zeroedBody h, fun hfield => ?_⟩
    · -- Both sides are small already, and behind the same mark.
      have hleft : Text.lower (zeroedBody name code) = zeroedBody name code :=
        lower_zeroAddresses hne (lower_lower _)
      have hright : Text.lower ((absentAddresses name).foldl zeroAddress
            ((Text.lower (body code)).take ((body code).length - cutSize (body code)))) =
          (absentAddresses name).foldl zeroAddress
            ((Text.lower (body code)).take ((body code).length - cutSize (body code))) := by
        apply lower_zeroAddresses hne
        rw [lower_take, lower_lower]
      rw [stripMetadata_zeroAbsentFeatures h hnone, zeroAbsentFeatures_stripMetadata h hnone,
        lower_append, lower_append, List.append_cancel_left_eq, lower_take, hleft, hright]
      exact take_zeroedBody_iff h
    · have hdeclared : declared (Text.lower (zeroedBody name code)) =
          declared (Text.lower (body code)) := by
        rw [declared, declared, length_lower, length_lower]
        simp only [Text.lower] at hfield ⊢
        rw [← List.map_drop, ← List.map_drop, hfield]
      rw [← cutSize_lower hdigits, ← cutSize_lower h, cutSize_of_digits hdigits.lower,
        cutSize_of_digits h.lower, hdeclared, length_lower, length_lower, hlength]

/-- A router that embeds an address in front of its trailer comes out the same in either order. -/
theorem strip_zero_comm_iff_router :
    let code := "0x735C69BEE701EF814A2B6A3EDD4B1652CB9CC5AA6F60aa0001".toList
    stripMetadata (zeroAbsentFeatures "SwapRouter02" code) ≠ stripMetadata code ∧
      Text.lower (stripMetadata (zeroAbsentFeatures "SwapRouter02" code)) =
        Text.lower (zeroAbsentFeatures "SwapRouter02" (stripMetadata code)) := by
  intro code
  have hagree := strip_zero_comm_iff "SwapRouter02" (show Digits (body code) by decide +kernel)
  have hcut := hagree.2.1 (by decide +kernel)
  exact ⟨by decide +kernel, hagree.1.mpr ⟨hcut, by decide +kernel⟩⟩

/-- Zeroing an address in front of the last byte makes a length field of its end, and an address
that reaches into the trailer is torn. -/
theorem strip_zero_ne :
    let zeroFirst (code : String) := stripMetadata (zeroAbsentFeatures "SwapRouter02" code.toList)
    let cutFirst (code : String) := zeroAbsentFeatures "SwapRouter02" (stripMetadata code.toList)
    let differ (code : String) := WholeBytes (body code.toList) ∧
      Text.lower (zeroFirst code) ≠ Text.lower (cutFirst code)
    differ "5c69bee701ef814a2b6a3edd4b1652cb9cc5aa6f01" ∧
      differ "605c69bee701ef814a2b6a3edd4b1652cb9cc5aa6f0001" ∧
      cutSize "5c69bee701ef814a2b6a3edd4b1652cb9cc5aa6f01".toList = 0 ∧
      cutSize (body (zeroAbsentFeatures "SwapRouter02"
        "5c69bee701ef814a2b6a3edd4b1652cb9cc5aa6f01".toList)) = 6 := by
  decide +kernel

end BytecodeParity.Code
