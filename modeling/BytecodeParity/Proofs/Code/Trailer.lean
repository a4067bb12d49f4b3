import BytecodeParity.Proofs.Code.Exactness
import BytecodeParity.Proofs.Numeral
/-!
# Trailers and verdicts

`stripMetadata` looks at the last four characters of a body, reads them as a number, and cuts twice
as many characters and four off the end. Whether the number is read, whether it is plausible and
whether something is left are three questions to three functions. On digits they come down to two
bounds on one number, `declared`, and that number depends on the last four characters only.

So the cut takes a trailer off whole and leaves what is in front of it whole, also if that is one
character (`stripMetadata_append`). **What is cut off is not seen again**: two runs that differ in
their trailers report the same (`compareContract_trailers`). The reference code of a contract with
absent features is zeroed before it is cut, and for it alone the trailer has to be kept.
-/

namespace BytecodeParity.Code

open Hex Text

/-! ## The length field -/

/-- The number in the last four characters, in a trailer the size of its block in bytes. -/
def declared (body : Text) : Nat :=
  Numeral.value 16 (body.drop (body.length - lengthFieldSize))

variable {b t : Text}

theorem declared_append (h : lengthFieldSize ≤ t.length) : declared (b ++ t) = declared t := by
  have hlen : (b ++ t).length - lengthFieldSize = b.length + (t.length - lengthFieldSize) := by
    rw [List.length_append, Nat.add_sub_assoc h]
  rw [declared, declared, hlen, ← List.drop_drop, List.drop_left]

/-- **On digits, the trailer is as long as declared**, within the bounds. -/
theorem trailerSize?_of_digits (h : Digits b) (hlen : lengthFieldSize ≤ b.length) :
    trailerSize? b =
      if 0 < declared b ∧ declared b < metadataLimit then
        some (2 * declared b + lengthFieldSize)
      else none := by
  have hfield : b.drop (b.length - lengthFieldSize) ≠ [] := by
    intro hnil
    have := List.drop_eq_nil_iff.mp hnil
    have hpos : 0 < lengthFieldSize := by decide
    omega
  have hread : Numeral.read? 16 UInt16.size (b.drop (b.length - lengthFieldSize)) =
      if declared b < UInt16.size then some (declared b) else none :=
    Numeral.read?_of_digits (by decide) (by decide) hfield fun c hc =>
      h c (List.mem_of_mem_drop hc)
  rw [trailerSize?, if_neg (Nat.not_lt.mpr hlen), hread]
  by_cases hlt : declared b < UInt16.size
  · rw [if_pos hlt]
    rfl
  · -- What does not fit two bytes is not plausible either.
    have hbeyond : ¬ (0 < declared b ∧ declared b < metadataLimit) := by
      rintro ⟨-, hsmall⟩
      exact hlt (Nat.lt_trans hsmall (by decide))
    rw [if_neg hlt, if_neg hbeyond]
    rfl

/-- **What is cut off a body of digits.** -/
theorem cutSize_of_digits (h : Digits b) :
    cutSize b =
      if 0 < declared b ∧ declared b < metadataLimit ∧
          2 * declared b + lengthFieldSize < b.length then
        2 * declared b + lengthFieldSize
      else 0 := by
  by_cases hlen : lengthFieldSize ≤ b.length
  · rw [cutSize, trailerSize?_of_digits h hlen]
    by_cases hfield : 0 < declared b ∧ declared b < metadataLimit
    · rw [if_pos hfield]
      simp only [hfield, true_and]
    · rw [if_neg hfield, if_neg fun hall => hfield ⟨hall.1, hall.2.1⟩]
  · -- Without a length field there is no trailer, and no room for one.
    have hnone : trailerSize? b = none := if_pos (Nat.not_le.mp hlen)
    rw [cutSize, hnone, if_neg fun hall => hlen (by omega)]

/-! ## Cutting a trailer off -/

/-- A trailer: a block of 1 to 99 bytes, and behind it the size of the block in four digits. -/
structure Trailer (t : Text) : Prop where
  digits : Digits t
  length : t.length = 2 * declared t + lengthFieldSize
  positive : 0 < declared t
  below : declared t < metadataLimit

instance (t : Text) : Decidable (Trailer t) :=
  decidable_of_iff
    (Digits t ∧ t.length = 2 * declared t + lengthFieldSize ∧ 0 < declared t ∧
      declared t < metadataLimit)
    ⟨fun h => ⟨h.1, h.2.1, h.2.2.1, h.2.2.2⟩,
      fun h => ⟨h.digits, h.length, h.positive, h.below⟩⟩

theorem Trailer.cutSize_append (ht : Trailer t) (hb : Digits b) (hne : b ≠ []) :
    cutSize (b ++ t) = t.length := by
  have hdigits : Digits (b ++ t) := hb.append ht.digits
  have hdeclared : declared (b ++ t) = declared t := by
    apply declared_append
    rw [ht.length]
    exact Nat.le_add_left _ _
  have hpos : 0 < b.length := List.length_pos_iff.mpr hne
  have hroom : 2 * declared t + lengthFieldSize < (b ++ t).length := by
    rw [List.length_append, ← ht.length]
    omega
  rw [cutSize_of_digits hdigits, hdeclared, if_pos ⟨ht.positive, ht.below, hroom⟩, ht.length]

/-- Digits behind a code lengthen its body. -/
theorem splitMark_append {code : Text} (hcode : Digits (body code)) (ht : Digits t) :
    splitMark (code ++ t) = ((splitMark code).1, body code ++ t) := by
  have hwhole : code ++ t = (splitMark code).1 ++ (body code ++ t) := by
    rw [← List.append_assoc, mark_append_body]
  rw [hwhole]
  exact (hcode.append ht).splitMark_append (mark_cases code)

/-- **A trailer is cut off whole, and nothing else.** -/
theorem stripMetadata_append {code : Text} (hcode : Hex.Code code) (ht : Trailer t) :
    stripMetadata (code ++ t) = code := by
  have hsplit := splitMark_append hcode.digits ht.digits
  have hbody : body (code ++ t) = body code ++ t := congrArg Prod.snd hsplit
  have hdigits : Digits (body (code ++ t)) := by
    rw [hbody]
    exact hcode.digits.append ht.digits
  have hcut : cutSize (body code ++ t) = t.length :=
    ht.cutSize_append hcode.digits hcode.nonempty
  calc stripMetadata (code ++ t)
      = (splitMark code).1 ++
          (body code ++ t).take ((body code ++ t).length - cutSize (body code ++ t)) := by
        rw [stripMetadata_of_digits hdigits, hsplit, hbody]
    _ = (splitMark code).1 ++ body code := by
        rw [hcut, List.length_append, Nat.add_sub_cancel, List.take_left]
    _ = code := mark_append_body code

/-! ## Verdicts -/

/-- Only the two routers have absent features. -/
theorem absentAddresses_eq_nil {name : String}
    (h : ¬ (name = "SwapRouter02" ∨ name = "UniversalRouter")) : absentAddresses name = [] := by
  rcases absentAddresses_cases name with hnone | ⟨c, hname, hc⟩
  · exact hnone
  · rw [hc]
    cases c
    case swapRouter => exact absurd (Or.inl hname.symm) h
    case universalRouter => exact absurd (Or.inr hname.symm) h
    all_goals rfl

variable {name : String} {d r t₁ t₁' t₂ t₂' : Text} {dv rv : Registry}

/-- **Trailers never influence the verdict.** The reference side of a contract with absent features
has to keep its own. -/
theorem compareContract_trailers (hd : Hex.Code d) (hr : Hex.Code r) (ht₁ : Trailer t₁)
    (ht₁' : Trailer t₁') (ht₂ : Trailer t₂) (ht₂' : Trailer t₂')
    (hkept : name = "SwapRouter02" ∨ name = "UniversalRouter" → t₂ = t₂') :
    compareContract name (d ++ t₁) (r ++ t₂) dv rv =
      compareContract name (d ++ t₁') (r ++ t₂') dv rv := by
  have hdeployed : withoutTrailer (d ++ t₁) = withoutTrailer (d ++ t₁') := by
    rw [withoutTrailer, withoutTrailer, stripMetadata_append hd ht₁, stripMetadata_append hd ht₁']
  have hreference : withoutTrailer (zeroAbsentFeatures name (r ++ t₂)) =
      withoutTrailer (zeroAbsentFeatures name (r ++ t₂')) := by
    by_cases hrouter : name = "SwapRouter02" ∨ name = "UniversalRouter"
    · rw [hkept hrouter]
    · -- Nothing is zeroed, and both trailers are cut off.
      rw [zeroAbsentFeatures_eq, zeroAbsentFeatures_eq, if_pos (absentAddresses_eq_nil hrouter),
        if_pos (absentAddresses_eq_nil hrouter), withoutTrailer, withoutTrailer,
        stripMetadata_append hr ht₂, stripMetadata_append hr ht₂']
  rw [compareContract, compareContract, normalize, normalize, hdeployed, hreference]

/-- A quoter of one character in front of trailers of different lengths. -/
theorem compareContract_trailers_quoter :
    let fork := Registry.ofDeployment [] "ff".toList
    let report (t t' : String) := compareContract "QuoterV2" ("0x6".toList ++ t.toList)
      ("0X60".toList ++ t'.toList) fork Registry.canonical
    report "aa0001" "bbBB0002" = report "aaaaaa0003" "c10001" :=
  compareContract_trailers (by decide) (by decide) (by decide) (by decide) (by decide) (by decide)
    (by decide)

end BytecodeParity.Code
