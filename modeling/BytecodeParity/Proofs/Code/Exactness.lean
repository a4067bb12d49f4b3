import BytecodeParity.Proofs.Code.Alignment
import BytecodeParity.Proofs.Code.Coverage
/-!
# What a comparison of two contracts reports

Between the two codes that go into `compareContract` and the differences that come out stand four
passes. For codes of whole bytes and values of digits the passes before this file leave two bodies
of small digits, `strippedBody` of either side, and two sets of covered positions, and the report
is a function of these four alone:

    differences  =  exposed (strippedBody deployed) (strippedBody zeroed) coverage coverage

The first result is that equation with its consequences for the other fields (`report_exact`): no
byte is reported twice, none out of order, none that a value covers, and **every other byte that
differs is reported**.

The second is what the masking is for. Two deployments of one source differ in the slots of their
immutable values, and an occurrence that stands alone is covered whole whatever was masked before
it, so **codes that differ in such slots only are identical** (`identical_of_isolated`).
-/

namespace BytecodeParity.Code

open Hex Text

/-- The body that is left of a code without its trailer, in small letters. -/
def strippedBody (code : Text) : Text := Text.lower (body (stripMetadata code))

section

variable {name : String} {deployed reference : Text} {dv rv : Registry}

theorem wholeBytes_strippedBody {code : Text} (h : WholeBytes (body code)) :
    WholeBytes (strippedBody code) :=
  (wholeBytes_stripMetadata h).lower

theorem digits_strippedBody {code : Text} (h : Digits (body code)) :
    Digits (strippedBody code) := by
  rw [strippedBody, body_stripMetadata h]
  exact (h.sublist (List.take_sublist _ _)).lower

/-- One side of a pair, masked, is its mark and its body painted over. -/
theorem mask_withoutTrailer {values : List Text} (hv : ∀ v ∈ values, Value v) (code : Text) :
    mask values (withoutTrailer code) =
      '0' :: 'x' :: paint maskChar (coverage values (strippedBody code)) (strippedBody code) := by
  rw [withoutTrailer, mask_marked hv,
    mask_eq_paint fun v hmem => ⟨(hv v hmem).ne_nil, (hv v hmem).digits⟩]
  rfl

/-- The whole report, from the two bodies and what the values cover of them. -/
theorem compareContract_eq (hd : WholeBytes (body deployed)) (hr : WholeBytes (body reference))
    (hdv : ∀ v ∈ dv.get name, Value v) (hrv : ∀ v ∈ rv.get name, Value v) :
    compareContract name deployed reference dv rv =
      let d := strippedBody deployed
      let r := strippedBody (zeroAbsentFeatures name reference)
      let found := exposed d r (coverage (dv.get name) d) (coverage (rv.get name) r)
      { identical := found.isEmpty
        sizeDelta := (d.length / 2 : Nat) - (r.length / 2 : Nat)
        differences := found } := by
  have hin : ∀ {values : List Text} {t : Text}, (∀ v ∈ values, Value v) →
      ∀ i, coverage values t i = true → i < t.length := fun hv i hi =>
    lt_length_of_coverage (fun v hmem => (hv v hmem).ne_nil) hi
  rw [compareContract, normalize]
  dsimp only
  rw [mask_withoutTrailer hdv, mask_withoutTrailer hrv]
  exact compare_paint (wholeBytes_strippedBody hd)
    (wholeBytes_strippedBody (wholeBytes_zeroAbsentFeatures hr)) (hin hdv) (hin hrv)

/-- Only the values of the contract count in a comparison. -/
theorem compareContract_congr {dv' : Registry} (h : dv.get name = dv'.get name) :
    compareContract name deployed reference dv rv =
      compareContract name deployed reference dv' rv := by
  rw [compareContract, compareContract, normalize, normalize, h]

/-! ## The report -/

theorem mem_positions_exposed {d r : Text} {onD onR : Nat → Bool} {i : Nat} :
    i ∈ (exposed d r onD onR).map Difference.position ↔
      i < max (d.length / 2) (r.length / 2) ∧ byteAt d i ≠ byteAt r i ∧
        touches onD i = false ∧ touches onR i = false := by
  rw [exposed, List.map_map]
  simp [Function.comp_def, and_assoc]

theorem exposed_pairwise (d r : Text) (onD onR : Nat → Bool) :
    (exposed d r onD onR).Pairwise fun x y => x.position < y.position := by
  rw [exposed, List.pairwise_map]
  exact List.pairwise_lt_range.filter _

/-- **The report is exact.** -/
theorem report_exact (hd : WholeBytes (body deployed)) (hr : WholeBytes (body reference))
    (hdv : ∀ v ∈ dv.get name, Value v) (hrv : ∀ v ∈ rv.get name, Value v) :
    let d := strippedBody deployed
    let r := strippedBody (zeroAbsentFeatures name reference)
    let report := compareContract name deployed reference dv rv
    report.differences = exposed d r (coverage (dv.get name) d) (coverage (rv.get name) r) ∧
      report.differences.Pairwise (fun x y => x.position < y.position) ∧
      (report.identical = true ↔ report.differences = []) ∧
      report.sizeDelta = (d.length / 2 : Nat) - (r.length / 2 : Nat) := by
  intro d r report
  have heq : report = _ := compareContract_eq hd hr hdv hrv
  refine ⟨?_, ?_, ?_, ?_⟩
  · rw [heq]
  · rw [heq]
    exact exposed_pairwise _ _ _ _
  · rw [heq]
    exact List.isEmpty_iff
  · rw [heq]

/-- A deployment of the factory that lacks the last byte of the canonical one. Of the bytes in front
of it two more differ, and these are covered. -/
theorem report_exact_factory :
    let fork := Registry.ofDeployment [("UniswapV3Factory", "0xa1b2")] "ff".toList
    let report := compareContract "UniswapV3Factory" "0x73A1B25B".toList "7300005bFF".toList fork
      Registry.canonical
    report.differences = [⟨4, missingByte, "ff".toList⟩] ∧ report.identical = false ∧
      report.sizeDelta = -1 := by
  intro fork report
  obtain ⟨hfound, -, hiff, hsize⟩ :=
    @report_exact "UniswapV3Factory" "0x73A1B25B".toList "7300005bFF".toList fork
      Registry.canonical (by decide +kernel) (by decide +kernel) (by decide +kernel)
      (by decide +kernel)
  have hone : report.differences = [⟨4, missingByte, "ff".toList⟩] := by
    rw [hfound]
    decide +kernel
  refine ⟨hone, ?_, ?_⟩
  · rw [Bool.eq_false_iff, ne_eq, hiff, hone]
    exact List.cons_ne_nil _ _
  · rw [hsize]
    decide +kernel

/-! ## Isolated slots -/

/-- A position that a slot of one of the values takes up alone. -/
def InSlot (values : List Text) (t : Text) (i : Nat) : Prop :=
  ∃ v a, Isolated values t v a ∧ a ≤ i ∧ i < a + v.length

theorem coverage_of_inSlot {values : List Text} (hv : ∀ v ∈ values, v ≠ []) {t : Text} {i : Nat}
    (h : InSlot values t i) : coverage values t i = true := by
  obtain ⟨v, a, hslot, hai, hia⟩ := h
  obtain ⟨k, rfl⟩ := Nat.exists_eq_add_of_le hai
  exact hslot.coverage_eq_true (hv v hslot.mem) k (by omega)

/-- Bytes that differ differ in one of their characters. -/
theorem touches_of_byteAt_ne {d r : Text} {on : Nat → Bool} {p : Nat}
    (hon : ∀ i, d[i]? ≠ r[i]? → on i = true) (h : byteAt d p ≠ byteAt r p) :
    touches on p = true := by
  rw [touches, Bool.or_eq_true]
  by_contra hnone
  rw [not_or] at hnone
  have hfirst : d[2 * p]? = r[2 * p]? := not_not.mp (mt (hon (2 * p)) hnone.1)
  have hsecond : d[2 * p + 1]? = r[2 * p + 1]? := not_not.mp (mt (hon (2 * p + 1)) hnone.2)
  exact h (by rw [byteAt, byteAt, hfirst, hsecond])

/-- Nothing is exposed where the two covers together reach every character that differs. -/
theorem exposed_eq_nil {d r : Text} {onD onR : Nat → Bool}
    (hon : ∀ i, d[i]? ≠ r[i]? → onD i = true ∨ onR i = true) : exposed d r onD onR = [] := by
  rw [exposed, List.map_eq_nil_iff, List.filter_eq_nil_iff]
  intro p _ hp
  simp only [Bool.and_eq_true, bne_iff_ne, Bool.not_eq_true'] at hp
  obtain ⟨⟨hne, hD⟩, hR⟩ := hp
  have heither : touches (fun i => onD i || onR i) p = true :=
    touches_of_byteAt_ne (fun i hi => Bool.or_eq_true_iff.mpr (hon i hi)) hne
  simp only [touches, Bool.or_eq_true, Bool.or_eq_false_iff] at heither hD hR
  rcases heither with (h | h) | (h | h)
  · exact Bool.false_ne_true (hD.1.symm.trans h)
  · exact Bool.false_ne_true (hR.1.symm.trans h)
  · exact Bool.false_ne_true (hD.2.symm.trans h)
  · exact Bool.false_ne_true (hR.2.symm.trans h)

/-- **No false alarm.** Codes whose bodies are of one length and differ in isolated slots only are
identical. -/
theorem identical_of_isolated (hd : WholeBytes (body deployed)) (hr : WholeBytes (body reference))
    (hdv : ∀ v ∈ dv.get name, Value v) (hrv : ∀ v ∈ rv.get name, Value v)
    (hlen : (strippedBody deployed).length =
      (strippedBody (zeroAbsentFeatures name reference)).length)
    (hslots : ∀ i, (strippedBody deployed)[i]? ≠
        (strippedBody (zeroAbsentFeatures name reference))[i]? →
      InSlot (dv.get name) (strippedBody deployed) i ∨
        InSlot (rv.get name) (strippedBody (zeroAbsentFeatures name reference)) i) :
    compareContract name deployed reference dv rv =
      { identical := true, sizeDelta := 0, differences := [] } := by
  have hcovered : ∀ i, (strippedBody deployed)[i]? ≠
        (strippedBody (zeroAbsentFeatures name reference))[i]? →
      coverage (dv.get name) (strippedBody deployed) i = true ∨
        coverage (rv.get name) (strippedBody (zeroAbsentFeatures name reference)) i = true :=
    fun i hi => (hslots i hi).imp
      (coverage_of_inSlot fun v hv => (hdv v hv).ne_nil)
      (coverage_of_inSlot fun v hv => (hrv v hv).ne_nil)
  rw [compareContract_eq hd hr hdv hrv]
  dsimp only
  rw [exposed_eq_nil hcovered, hlen, Int.sub_self]
  rfl

/-- Two factories that differ in their own address are identical. -/
theorem identical_of_isolated_factory :
    compareContract "UniswapV3Factory" "0x73A1B25B".toList "7300005b".toList
        (Registry.ofDeployment [("UniswapV3Factory", "0xa1b2")] "ff".toList) Registry.canonical =
      { identical := true, sizeDelta := 0, differences := [] } := by
  refine identical_of_isolated (by decide +kernel) (by decide +kernel) (by decide +kernel)
    (by decide +kernel) (by decide +kernel) fun i hi => Or.inl ?_
  refine ⟨"a1b2".toList, 2, by decide +kernel, ?_⟩
  rcases Nat.lt_or_ge i 8 with hlt | hge
  · revert hi
    revert i
    decide +kernel
  · refine absurd ?_ hi
    rw [List.getElem?_eq_none (le_trans (by decide +kernel) hge),
      List.getElem?_eq_none (le_trans (by decide +kernel) hge)]

end

end BytecodeParity.Code
