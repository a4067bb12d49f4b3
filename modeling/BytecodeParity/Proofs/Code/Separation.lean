import BytecodeParity.Proofs.Code.Exactness
import BytecodeParity.Proofs.Contract.Registry
import Mathlib.Data.List.Perm.Subperm
/-!
# Codes that tell two pool init code hashes apart

Which values a fork's registry lists decides what a comparison masks, so two registries that differ
in the hash should be told apart by some pair of codes. This file builds the pair. The deployed
code is one hash `x`, which one of the registries lists and in which the other's hash `y` does not
occur, with four copies of a digit behind it that no value ends on; the padding keeps every
occurrence of a value inside `x` (`occursAt_padded`) and is no trailer. The reference is too short
for any canonical value and differs from the deployed code in the first byte.

One registry masks that byte and the other does not, so **the reports differ** (`exists_codes_ne`).
-/

namespace BytecodeParity.Code

open Hex Text

/-! ## Padding -/

/-- The digits in small letters. -/
def smallDigits : List Char := "0123456789abcdef".toList

/-- Among the digits one can always be found that is not one of a few characters. -/
theorem exists_digit_notMem {l : List Char} (h : l.length < 16) : ∃ p ∈ smallDigits, p ∉ l := by
  by_contra hall
  have hsub : smallDigits ⊆ l := fun p hp => by
    by_contra hnot
    exact hall ⟨p, hp, hnot⟩
  have hnodup : smallDigits.Nodup := by decide
  have hle := (hnodup.subperm hsub).length_le
  exact absurd hle (Nat.not_le.mpr h)

/-- Behind four copies of a digit. -/
def padded (x : Text) (p : Char) : Text := x ++ List.replicate 4 p

variable {x y v : Text} {p : Char}

theorem length_padded : (padded x p).length = x.length + 4 := by
  rw [padded, List.length_append, List.length_replicate]

theorem getElem?_padded_of_lt {i : Nat} (h : i < x.length) : (padded x p)[i]? = x[i]? :=
  List.getElem?_append_left h

/-- A value that does not end on the padding does not reach into it. -/
theorem occursAt_padded {a : Nat} (hv : v ≠ []) (hlast : v.getLast? ≠ some p)
    (h : occursAt v (padded x p) a = true) : occursAt v x a = true := by
  have hpos : 0 < v.length := List.length_pos_iff.mpr hv
  have hin : a + v.length ≤ x.length := by
    -- Otherwise the last character of the value is one of the padding.
    by_contra hout
    have hend := occursAt_iff.mp h (v.length - 1) (by omega)
    rw [padded, List.getElem?_append_right (by omega), List.getElem?_replicate] at hend
    split at hend
    · exact hlast (by rw [List.getLast?_eq_getElem?, hend, List.getElem?_eq_getElem (by omega)])
    · cases hend
  refine occursAt_iff.mpr fun k hk => ?_
  rw [← getElem?_padded_of_lt (p := p) (by omega)]
  exact occursAt_iff.mp h k hk

theorem digits_of_mem_smallDigits (hp : p ∈ smallDigits) : isDigit p = true ∧ p.toLower = p := by
  revert p
  decide

theorem wholeBytes_padded (hx : Stored x) (hp : p ∈ smallDigits) : WholeBytes (padded x p) := by
  refine ⟨fun c hc => ?_, ?_⟩
  · rcases List.mem_append.mp hc with h | h
    · exact hx.digits c h
    · rw [List.eq_of_mem_replicate h]
      exact (digits_of_mem_smallDigits hp).1
  · have heven := hx.even
    rw [length_padded]
    omega

/-- Padding declares no trailer. -/
theorem strippedBody_padded (hx : Stored x) (hp : p ∈ smallDigits) :
    strippedBody (padded x p) = padded x p := by
  have hdigits := (wholeBytes_padded hx hp).digits
  have htrailer : trailerSize? (padded x p) = none := by
    have hfield : (padded x p).drop ((padded x p).length - lengthFieldSize) =
        List.replicate 4 p := by
      rw [length_padded, lengthFieldSize, Nat.add_sub_cancel, padded, List.drop_left]
    rw [trailerSize?, hfield, if_neg (by rw [length_padded, lengthFieldSize]; omega)]
    clear hfield hdigits
    revert p
    decide
  have hsmall : Text.lower (padded x p) = padded x p := by
    rw [padded, lower_append, hx.small, Text.lower, List.map_replicate,
      (digits_of_mem_smallDigits hp).2]
  rw [strippedBody, body_stripMetadata (by rwa [hdigits.body_eq]), hdigits.body_eq, cutSize,
    htrailer, Nat.sub_zero, List.take_length, hsmall]

/-! ## The first byte -/

/-- Nothing of a value is covered where no value occurs. -/
theorem coverage_padded_eq_false {values : List Text} (hne : ∀ v ∈ values, v ≠ [])
    (hlast : ∀ v ∈ values, (Text.lower v).getLast? ≠ some p)
    (hocc : ∀ v ∈ values, ∀ a, occursAt (Text.lower v) x a = false) (i : Nat) :
    coverage values (padded x p) i = false := by
  rw [Bool.eq_false_iff]
  intro h
  obtain ⟨v, hv, a, ha, -⟩ := coverage_sound h
  have := occursAt_padded (lower_ne_nil (hne v hv)) (hlast v hv) ha
  rw [hocc v hv a] at this
  cases this

/-- A value that all others stay clear of is covered where it stands in front of the padding. -/
theorem coverage_padded_zero {values : List Text} (hx : Stored x) (hmem : x ∈ values)
    (hne : ∀ v ∈ values, v ≠ []) (hlast : ∀ v ∈ values, (Text.lower v).getLast? ≠ some p)
    (hocc : ∀ v ∈ values, v = x ∨ ∀ a, occursAt (Text.lower v) x a = false) :
    coverage values (padded x p) 0 = true := by
  have hpos : 0 < x.length := List.length_pos_iff.mpr hx.ne_nil
  have hself : occursAt (Text.lower x) (padded x p) 0 = true := by
    rw [hx.small]
    refine occursAt_iff.mpr fun k hk => ?_
    rw [Nat.zero_add, getElem?_padded_of_lt hk, List.getElem?_eq_getElem hk]
  refine Isolated.coverage_eq_true hx.ne_nil ⟨hmem, hself, fun v hv a ha _ _ => ?_⟩ 0 hpos
  have hinside := occursAt_padded (lower_ne_nil (hne v hv)) (hlast v hv) ha
  rcases hocc v hv with rfl | hnone
  · have hle := le_length_of_occursAt (lower_ne_nil hx.ne_nil) hinside
    rw [length_lower] at hle
    exact ⟨by omega, rfl⟩
  · rw [hnone a] at hinside
    cases hinside

/-- A reference code of three bytes, the first of which does not begin with a given digit. -/
def contrast (c : Char) : Text := if c = '0' then "11ffff".toList else "00ffff".toList

theorem contrast_cases (c : Char) :
    contrast c = "11ffff".toList ∨ contrast c = "00ffff".toList := by
  rw [contrast]
  split
  · exact Or.inl rfl
  · exact Or.inr rfl

theorem wholeBytes_contrast (c : Char) : WholeBytes (contrast c) := by
  rcases contrast_cases c with h | h <;> rw [h] <;> decide

theorem length_contrast (c : Char) : (contrast c).length = 6 := by
  rcases contrast_cases c with h | h <;> rw [h] <;> rfl

theorem body_contrast (c : Char) : body (contrast c) = contrast c :=
  (wholeBytes_contrast c).digits.body_eq

/-- Nothing is zeroed in the reference code and nothing is cut off. -/
theorem strippedBody_contrast (contract : Contract) (c : Char) :
    strippedBody (zeroAbsentFeatures contract.name (contrast c)) = contrast c := by
  rw [zeroAbsentFeatures_eq, absentAddresses, Contract.ofName?_name]
  rcases contrast_cases c with h | h <;> rw [h] <;> cases contract <;> decide +kernel

/-- The first byte differs, whatever follows in the deployed code. -/
theorem byteAt_contrast_ne {c d : Char} {t : Text} :
    byteAt (c :: d :: t) 0 ≠ byteAt (contrast c) 0 := by
  rw [contrast]
  split
  next h =>
    subst h
    exact fun heq => absurd (List.cons.inj heq).1 (by decide)
  next h => exact fun heq => h (List.cons.inj heq).1

/-- No canonical value is covered in the reference code. -/
theorem coverage_contrast (contract : Contract) (c : Char) (i : Nat) :
    coverage (Registry.canonical.get contract.name) (contrast c) i = false := by
  rw [Bool.eq_false_iff]
  intro h
  obtain ⟨v, hv, a, ha, -⟩ := coverage_sound h
  obtain ⟨hvalue, hlong⟩ := Registry.value_of_mem_canonical hv
  have hle := le_length_of_occursAt (lower_ne_nil hvalue.ne_nil) ha
  rw [length_lower, length_contrast] at hle
  omega

/-- Whether the first byte is reported depends on whether the values of the deployed side cover a
character of it. -/
theorem zero_mem_positions_iff {c : Contract} {dv : Registry} (hx : Stored x)
    (hp : p ∈ smallDigits) (hdv : ∀ v ∈ dv.get c.name, Value v) :
    0 ∈ (compareContract c.name (padded x p) (contrast (x.headD '0')) dv
        Registry.canonical).differences.map Difference.position ↔
      touches (coverage (dv.get c.name) (padded x p)) 0 = false := by
  have hd := wholeBytes_padded hx hp
  have hr := wholeBytes_contrast (x.headD '0')
  have hlen := hx.value.size
  rw [compareContract_eq (by rwa [hd.digits.body_eq]) (by rwa [body_contrast]) hdv
    fun v hv => (Registry.value_of_mem_canonical hv).1]
  simp only [strippedBody_padded hx hp, strippedBody_contrast, mem_positions_exposed]
  have hne : byteAt (padded x p) 0 ≠ byteAt (contrast (x.headD '0')) 0 := by
    match x, hlen with
    | a :: b :: _, _ => exact byteAt_contrast_ne
  have hclear : touches (coverage (Registry.canonical.get c.name) (contrast (x.headD '0'))) 0 =
      false := by
    rw [touches, coverage_contrast, coverage_contrast]
    rfl
  have hin : 0 < max ((padded x p).length / 2) ((contrast (x.headD '0')).length / 2) := by
    rw [length_contrast]
    omega
  simp only [hne, hclear, hin, ne_eq, not_false_eq_true, true_and, and_true]

/-! ## The codes -/

theorem code_padded (hx : Stored x) (hp : p ∈ smallDigits) : Hex.Code (padded x p) := by
  have hdigits := (wholeBytes_padded hx hp).digits
  refine ⟨by rwa [hdigits.body_eq], ?_⟩
  rw [hdigits.body_eq]
  exact List.ne_nil_of_length_pos (by rw [length_padded]; omega)

theorem code_contrast (c : Char) : Hex.Code (contrast c) := by
  refine ⟨by rw [body_contrast]; exact (wholeBytes_contrast c).digits, ?_⟩
  rw [body_contrast]
  exact List.ne_nil_of_length_pos (by rw [length_contrast]; omega)

variable {contracts : OrderedMap String String} {c : Contract}

/-- A registry that covers the first byte and one that covers nothing lead to different reports. -/
theorem compareContract_ne {dv dw : Registry} (hx : Stored x) (hp : p ∈ smallDigits)
    (hdv : ∀ v ∈ dv.get c.name, Value v) (hdw : ∀ v ∈ dw.get c.name, Value v)
    (hcovered : coverage (dv.get c.name) (padded x p) 0 = true)
    (hclear : ∀ i, coverage (dw.get c.name) (padded x p) i = false) :
    compareContract c.name (padded x p) (contrast (x.headD '0')) dv Registry.canonical ≠
      compareContract c.name (padded x p) (contrast (x.headD '0')) dw Registry.canonical := by
  intro heq
  have hreported := (zero_mem_positions_iff hx hp hdw).mpr (by
    rw [touches, hclear, hclear]
    rfl)
  rw [← heq, zero_mem_positions_iff hx hp hdv, touches, hcovered] at hreported
  cases hreported

/-- **Some codes are compared differently** under two hashes, the second of which does not occur in
the first, if the contract embeds the hash and its other values do not occur in the first. -/
theorem exists_codes_ne (hc : Role.poolInitCodeHash ∈ c.roles) (hx : Stored x) (hy : Stored y)
    (hxy : ∀ a, occursAt y x a = false)
    (hother : ∀ v ∈ Registry.otherValues contracts c,
      Value v ∧ ∀ a, occursAt (Text.lower v) x a = false) :
    ∃ deployed reference, Hex.Code deployed ∧ Hex.Code reference ∧
      compareContract c.name deployed reference (Registry.ofDeployment contracts x)
          Registry.canonical ≠
        compareContract c.name deployed reference (Registry.ofDeployment contracts y)
          Registry.canonical := by
  -- A digit for the padding, on which none of the values ends.
  obtain ⟨p, hp, hfresh⟩ : ∃ p ∈ smallDigits,
      p ∉ (x :: y :: Registry.otherValues contracts c).filterMap
        fun v => (Text.lower v).getLast? := by
    refine exists_digit_notMem (lt_of_le_of_lt (List.length_filterMap_le _ _) ?_)
    have := Registry.length_otherValues_le contracts c
    simp only [List.length_cons]
    omega
  have hlast : ∀ v ∈ x :: y :: Registry.otherValues contracts c,
      (Text.lower v).getLast? ≠ some p := fun v hv h =>
    hfresh (List.mem_filterMap.mpr ⟨v, hv, h⟩)
  -- Under either hash the contract lists the other values and the hash.
  have hmem : ∀ {h : Text}, Stored h → ∀ v,
      v ∈ (Registry.ofDeployment contracts h).get c.name →
        v ∈ Registry.otherValues contracts c ∨ v = h :=
    fun hh v => (Registry.mem_get_ofDeployment hc hh).mp
  have hvalue : ∀ {h : Text}, Stored h →
      ∀ v ∈ (Registry.ofDeployment contracts h).get c.name, Value v := fun hh v hv =>
    (hmem hh v hv).elim (fun h => (hother v h).1) fun h => h ▸ hh.value
  refine ⟨padded x p, contrast (x.headD '0'), code_padded hx hp, code_contrast _,
    compareContract_ne hx hp (hvalue hx) (hvalue hy) ?_ ?_⟩
  · refine coverage_padded_zero hx ((Registry.mem_get_ofDeployment hc hx).mpr (Or.inr rfl))
      (fun v hv => (hvalue hx v hv).ne_nil) (fun v hv => hlast v ?_) fun v hv => ?_
    · exact (hmem hx v hv).elim (by simp +contextual) (by simp +contextual)
    · exact (hmem hx v hv).elim (fun h => Or.inr (hother v h).2) Or.inl
  · refine coverage_padded_eq_false (fun v hv => (hvalue hy v hv).ne_nil)
      (fun v hv => hlast v ?_) fun v hv => ?_
    · exact (hmem hy v hv).elim (by simp +contextual) (by simp +contextual)
    · rcases hmem hy v hv with h | rfl
      · exact (hother v h).2
      · rw [hy.small]
        exact hxy

end BytecodeParity.Code
