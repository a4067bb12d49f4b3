import BytecodeParity.Proofs.Code.Exactness
import BytecodeParity.Proofs.Contract.Registry
import BytecodeParity.Proofs.Text.Size
/-!
# What masking leaves of the mark

A code goes into `mask` with its mark in front, and `compare` takes the mark off again. In between
the mark is text like any other, and the values of a fork are whatever its address file says: no one
checks that an address is an address. The length is safe, since a mask is as long as what it covers
(`byteSize_mask`). The mark is not. A value that stands at the very front when its turn comes takes
the 0 of the mark with it, and then `compare` counts the two masked characters as code.

One value changes the front only if it stands there (`maskValue_marked_cases`), and a front that is
masked stays masked. Hence the mark survives a list of values exactly if none of them reaches the
front in its turn (`foldl_marked_cases`), which for digits means that none is the single digit 0
(`reachesFront_iff_of_digits`). **With the mark, differences are counted from the first byte of the
code; without it they are one byte late and the deployed code is one byte too long**
(`mark_survives_iff`).
-/

namespace BytecodeParity

open Hex

namespace Code

open Text

variable {values : List Text} {v t : Text}

theorem byteSize_maskValue (t v : Text) : byteSize (maskValue t v) = byteSize t := by
  rw [maskValue]
  apply byteSize_replaceAll
  rw [byteSize_replicate]
  exact Nat.mul_one _

/-- **Masking keeps the size.** -/
theorem byteSize_mask (values : List Text) (t : Text) : byteSize (mask values t) = byteSize t := by
  rw [mask, ← byteSize_lower t]
  generalize Text.lower t = s
  induction values generalizing s with
  | nil => rfl
  | cons v values ih => rw [List.foldl_cons, ih, byteSize_maskValue]

/-! ## The front -/

/-- Whether a code has a small mark. -/
def Marked (t : Text) : Prop := ['0', 'x'] <+: t

instance (t : Text) : Decidable (Marked t) := inferInstanceAs (Decidable (_ <+: _))

theorem marked_iff : Marked t ↔ ∃ s, t = '0' :: 'x' :: s := by
  constructor
  · rintro ⟨s, rfl⟩
    exact ⟨s, rfl⟩
  · rintro ⟨s, rfl⟩
    exact ⟨s, rfl⟩

theorem not_marked_of_masked {s : Text} (h : t = maskChar :: s) : ¬ Marked t := by
  rintro ⟨r, hr⟩
  rw [h] at hr
  exact absurd (List.cons.inj hr).1 (by decide)

theorem exists_maskValue_cons (hv : v ≠ []) (c : Char) (t : Text) :
    ∃ s, maskValue (c :: t) v = (if Text.lower v <+: c :: t then maskChar else c) :: s := by
  have hne := lower_ne_nil hv
  rw [maskValue, replaceAll, if_neg (by simpa using hne)]
  exact exists_replaceFrom_cons (byteSize_pos hne) _ c maskChar t

/-- A front that is masked stays masked. -/
theorem exists_foldl_masked (hv : ∀ v ∈ values, v ≠ []) (t : Text) :
    ∃ s, values.foldl maskValue (maskChar :: t) = maskChar :: s := by
  induction values generalizing t with
  | nil => exact ⟨t, rfl⟩
  | cons v values ih =>
    obtain ⟨s, hs⟩ := exists_maskValue_cons (hv v List.mem_cons_self) maskChar t
    rw [ite_self] at hs
    rw [List.foldl_cons, hs]
    exact ih (fun w hw => hv w (List.mem_cons_of_mem v hw)) s

/-- **One value takes the mark away exactly if it stands at the front**, and then it leaves a masked
front behind. -/
theorem maskValue_marked_cases (hv : v ≠ []) (ht : Marked t) :
    (¬ Text.lower v <+: t ∧ Marked (maskValue t v)) ∨
      (Text.lower v <+: t ∧ ∃ s, maskValue t v = maskChar :: s) := by
  obtain ⟨s, rfl⟩ := marked_iff.mp ht
  by_cases hfront : Text.lower v <+: '0' :: 'x' :: s
  · right
    obtain ⟨r, hr⟩ := exists_maskValue_cons hv '0' ('x' :: s)
    rw [if_pos hfront] at hr
    exact ⟨hfront, r, hr⟩
  · left
    refine ⟨hfront, marked_iff.mpr ?_⟩
    have hne := lower_ne_nil hv
    -- The letter of the mark is the mask character: whether it is masked cannot be seen.
    obtain ⟨r, hr⟩ := exists_replaceFrom_cons (byteSize_pos hne) (Text.lower v) 'x' maskChar s
    have hx : (if Text.lower v <+: 'x' :: s then maskChar else 'x') = 'x' := ite_self _
    rw [hx] at hr
    refine ⟨r, ?_⟩
    rw [maskValue, replaceAll, if_neg (by simpa using hne), replaceFrom,
      if_neg (mt List.isPrefixOf_iff_prefix.mp hfront), hr]

/-- A value stands at the very front of a text when its turn to be masked comes. -/
def ReachesFront : List Text → Text → Prop
  | [], _ => False
  | v :: values, t => Text.lower v <+: t ∨ ReachesFront values (maskValue t v)

instance decidableReachesFront : ∀ values t, Decidable (ReachesFront values t)
  | [], _ => inferInstanceAs (Decidable False)
  | v :: values, t =>
    have := decidableReachesFront values (maskValue t v)
    inferInstanceAs (Decidable (Text.lower v <+: t ∨ ReachesFront values (maskValue t v)))

/-- **Either no value reaches the front and the mark is there, or one does and the front is
masked.** -/
theorem foldl_marked_cases (hv : ∀ v ∈ values, v ≠ []) (ht : Marked t) :
    (¬ ReachesFront values t ∧ Marked (values.foldl maskValue t)) ∨
      (ReachesFront values t ∧ ∃ s, values.foldl maskValue t = maskChar :: s) := by
  induction values generalizing t with
  | nil => exact Or.inl ⟨id, ht⟩
  | cons v values ih =>
    have hrest : ∀ w ∈ values, w ≠ [] := fun w hw => hv w (List.mem_cons_of_mem v hw)
    rw [List.foldl_cons, ReachesFront]
    rcases maskValue_marked_cases (hv v List.mem_cons_self) ht with
      ⟨hclear, hmarked⟩ | ⟨hfront, r, hr⟩
    · simp only [hclear, false_or]
      exact ih hrest hmarked
    · right
      refine ⟨Or.inl hfront, ?_⟩
      rw [hr]
      exact exists_foldl_masked hrest r

/-- Digits stand at the front of a marked code only if they are the single digit 0. -/
theorem prefix_marked_iff (hne : v ≠ []) (hv : Digits v) (ht : Marked t) :
    Text.lower v <+: t ↔ v = ['0'] := by
  obtain ⟨s, rfl⟩ := marked_iff.mp ht
  constructor
  · intro hfront
    cases v with
    | nil => exact absurd rfl hne
    | cons c v =>
      rw [lower_cons, List.cons_prefix_cons] at hfront
      have hc : c = '0' :=
        of_digit (P := fun c => c.toLower = '0' → c = '0') (by decide) (hv c List.mem_cons_self)
          hfront.1
      cases v with
      | nil => rw [hc]
      | cons d v =>
        rw [lower_cons, List.cons_prefix_cons] at hfront
        have hd := isDigit_toLower (hv d (by simp))
        exact absurd hfront.2.1 (ne_of_digit hd (by decide))
  · rintro rfl
    exact ⟨'x' :: s, rfl⟩

/-- **Digits reach the front exactly if one of them is the single digit 0.** -/
theorem reachesFront_iff_of_digits (hv : ∀ v ∈ values, v ≠ [] ∧ Digits v) (ht : Marked t) :
    ReachesFront values t ↔ ['0'] ∈ values := by
  induction values generalizing t with
  | nil => exact iff_of_false id List.not_mem_nil
  | cons v values ih =>
    obtain ⟨hne, hdigits⟩ := hv v List.mem_cons_self
    have hiff := prefix_marked_iff hne hdigits ht
    rw [ReachesFront, List.mem_cons, hiff, @eq_comm _ ['0'] v]
    rcases maskValue_marked_cases hne ht with ⟨hclear, hmarked⟩ | ⟨hfront, -⟩
    · rw [ih (fun w hw => hv w (List.mem_cons_of_mem v hw)) hmarked]
    · have hzero := hiff.mp hfront
      simp only [hzero, true_or]

/-! ## Comparing with the mark and without it -/

/-- The differences of two bodies, byte against byte from the first one on. -/
def bodyDifferences (d r : Text) : List Difference :=
  differences (align (pairs (utf8 d)) (pairs (utf8 r)))

theorem compare_eq (d r : Text) :
    compare d r =
      { identical := (bodyDifferences (body d) (body r)).isEmpty
        sizeDelta := Int.tdiv ((byteSize (body d) : Int) - byteSize (body r)) 2
        differences := bodyDifferences (body d) (body r) } := by
  rw [compare, ← length_utf8_eq_byteSize, ← length_utf8_eq_byteSize]
  rfl

theorem body_of_marked (h : Marked t) : body t = t.drop 2 ∧ byteSize t = 2 + byteSize (body t) := by
  obtain ⟨s, rfl⟩ := marked_iff.mp h
  refine ⟨rfl, ?_⟩
  show 1 + (1 + byteSize s) = 2 + byteSize s
  omega

theorem body_of_masked {s : Text} (h : t = maskChar :: s) : body t = t := by
  rw [h]
  rfl

theorem marked_withoutTrailer (code : Text) : Marked (Text.lower (withoutTrailer code)) :=
  marked_iff.mpr ⟨_, rfl⟩

/-- Masked, a code is as long as its stripped body and the mark. -/
theorem byteSize_mask_withoutTrailer (values : List Text) (code : Text) :
    byteSize (mask values (withoutTrailer code)) = 2 + byteSize (body (stripMetadata code)) := by
  rw [byteSize_mask, withoutTrailer, byteSize_cons, byteSize_cons]
  show 1 + (1 + _) = 2 + _
  omega

/-- The mark of the reference code is never masked. -/
theorem marked_mask_canonical (name : String) (code : Text) :
    Marked (mask (Registry.canonical.get name) (withoutTrailer code)) := by
  rw [withoutTrailer, mask_marked fun v hv => (Registry.value_of_mem_canonical hv).1]
  exact marked_iff.mpr ⟨_, rfl⟩

/-- With both marks in place the comparison begins at the first byte of each code. -/
theorem compare_of_marked {p q : Text} {d r : Nat} (hp : Marked p) (hq : Marked q)
    (hd : byteSize p = 2 + d) (hr : byteSize q = 2 + r) :
    (compare p q).sizeDelta = Int.tdiv ((d : Int) - r) 2 ∧
      (compare p q).differences = bodyDifferences (p.drop 2) (q.drop 2) := by
  obtain ⟨hpbody, hpsize⟩ := body_of_marked hp
  obtain ⟨hqbody, hqsize⟩ := body_of_marked hq
  have hd' : byteSize (body p) = d := by omega
  have hr' : byteSize (body q) = r := by omega
  rw [compare_eq, hd', hr', hpbody, hqbody]
  exact ⟨rfl, rfl⟩

/-- Without the mark of the first code, its two masked characters count as a byte of it. -/
theorem compare_of_masked {p q s : Text} {d r : Nat} (hp : p = maskChar :: s) (hq : Marked q)
    (hd : byteSize p = 2 + d) (hr : byteSize q = 2 + r) :
    (compare p q).sizeDelta = Int.tdiv (2 + (d : Int) - r) 2 ∧
      (compare p q).differences = bodyDifferences p (q.drop 2) := by
  obtain ⟨hqbody, hqsize⟩ := body_of_marked hq
  have hr' : byteSize (body q) = r := by omega
  rw [compare_eq, body_of_masked hp, hd, hr', hqbody, Int.natCast_add]
  exact ⟨rfl, rfl⟩

/-- **What becomes of the mark, and of the count.** Both codes keep their sizes and the reference
code its mark. The deployed code keeps its mark exactly if no value reaches the front, for digits
exactly if none of the values is a single 0. With the mark the differences and the difference in
size are counted from the first byte of each stripped body. Without it the deployed body is taken to
begin one byte, the two characters of its lost mark, earlier. -/
theorem mark_survives_iff (contracts : OrderedMap String String) (poolHash : Text) (name : String)
    (deployed reference : Text) :
    let fork := Registry.ofDeployment contracts poolHash
    let pair := normalize name deployed reference fork Registry.canonical
    let report := compareContract name deployed reference fork Registry.canonical
    let d := byteSize (body (stripMetadata deployed))
    let r := byteSize (body (stripMetadata (zeroAbsentFeatures name reference)))
    (byteSize pair.deployed = 2 + d ∧ byteSize pair.reference = 2 + r) ∧
    Marked pair.reference ∧
    (Marked pair.deployed ↔
      ¬ ReachesFront (fork.get name) (Text.lower (withoutTrailer deployed))) ∧
    ((∀ v ∈ fork.get name, Digits v) → (Marked pair.deployed ↔ ['0'] ∉ fork.get name)) ∧
    (Marked pair.deployed →
      report.sizeDelta = Int.tdiv ((d : Int) - r) 2 ∧
      report.differences = bodyDifferences (pair.deployed.drop 2) (pair.reference.drop 2)) ∧
    (¬ Marked pair.deployed →
      report.sizeDelta = Int.tdiv (2 + (d : Int) - r) 2 ∧
      report.differences = bodyDifferences pair.deployed (pair.reference.drop 2)) := by
  intro fork pair report d r
  have hne : ∀ v ∈ fork.get name, v ≠ [] := fun v hv => Registry.ne_nil_of_mem_get hv
  have hstart := marked_withoutTrailer deployed
  have hd : byteSize pair.deployed = 2 + d := byteSize_mask_withoutTrailer _ _
  have hr : byteSize pair.reference = 2 + r := byteSize_mask_withoutTrailer _ _
  have href : Marked pair.reference := marked_mask_canonical name _
  have hdigits : (∀ v ∈ fork.get name, Digits v) →
      (ReachesFront (fork.get name) (Text.lower (withoutTrailer deployed)) ↔
        ['0'] ∈ fork.get name) :=
    fun h => reachesFront_iff_of_digits (fun v hv => ⟨hne v hv, h v hv⟩) hstart
  rcases foldl_marked_cases hne hstart with ⟨hclear, hmarked⟩ | ⟨hfront, s, hs⟩
  · have hmark : Marked pair.deployed := hmarked
    refine ⟨⟨hd, hr⟩, href, iff_of_true hmark hclear, fun h => ?_, fun _ => ?_, fun h => ?_⟩
    · exact iff_of_true hmark (mt (hdigits h).mpr hclear)
    · exact compare_of_marked hmark href hd hr
    · exact absurd hmark h
  · have hmask : pair.deployed = maskChar :: s := hs
    have hlost := not_marked_of_masked hmask
    refine ⟨⟨hd, hr⟩, href, iff_of_false hlost (not_not.mpr hfront), fun h => ?_, fun h => ?_,
      fun _ => ?_⟩
    · exact iff_of_false hlost (not_not.mpr ((hdigits h).mp hfront))
    · exact absurd h hlost
    · exact compare_of_masked hmask href hd hr

/-- An address file that tells 0 as an address: of two equal codes of one byte the deployed one
counts as longer by a byte, and the byte as added. -/
theorem mark_survives_iff_zero :
    let fork := Registry.ofDeployment [("UniswapV3Factory", "0x0")] "ff".toList
    let code := "0x61".toList
    let report := compareContract "UniswapV3Factory" code code fork Registry.canonical
    ¬ Marked (normalize "UniswapV3Factory" code code fork Registry.canonical).deployed ∧
      report.sizeDelta = 1 ∧ report.differences = [⟨1, "61".toList, missingByte⟩] := by
  intro fork code report
  obtain ⟨-, -, -, hdigits, -, hlost⟩ :=
    mark_survives_iff [("UniswapV3Factory", "0x0")] "ff".toList "UniswapV3Factory" code code
  have hnot := mt (hdigits (by decide +kernel)).mp (by decide +kernel)
  obtain ⟨hsize, hfound⟩ := hlost hnot
  refine ⟨hnot, ?_, ?_⟩
  · exact hsize.trans (by decide +kernel)
  · exact hfound.trans (by decide +kernel)

end Code

end BytecodeParity
