import BytecodeParity.Proofs.Code.Alignment
import BytecodeParity.Proofs.Code.Exactness
/-!
# Comparing with nothing to mask

For a contract without immutable values a comparison should fail whenever the codes differ. On
digits it does. Nothing checks that a code consists of digits, though, and on other text three
signs of the comparison itself can be read out of a code: the mask character, the two dashes that
stand for a missing byte, and the replacement character of a cut that falls inside a character.

A pair of chunks that carries such a sign is `Blind`, and the signs are the whole story:

    identical  ↔  at every position the chunks are equal or blind

So **codes that come out identical are equal up to case if no position is blind**
(`stripped_eq_of_identical`), and no position of two texts of digits is (`not_blind_of_digits`).
-/

namespace BytecodeParity.Code

open Hex Text

/-! ## One position -/

/-- The byte of the mask character. -/
def maskByte : UInt8 := 0x78

/-- The bytes that read like the stand-in for a missing byte. -/
def dashes : List UInt8 := [0x2D, 0x2D]

/-- Whether two chunks cannot be told apart by what they show: one of them holds the mask
character, or one reads like the stand-in for the other, which is missing, or both show the same
text and lose a character in it. -/
def Blind (a b : List UInt8) : Prop :=
  (maskByte ∈ a ∨ maskByte ∈ b) ∨ (a = dashes ∧ b = [] ∨ a = [] ∧ b = dashes) ∨
    replacement ∈ showChunk a ∧ showChunk a = showChunk b

instance (a b : List UInt8) : Decidable (Blind a b) :=
  inferInstanceAs (Decidable (_ ∨ _ ∨ _))

/-- What is compared at a position: the text of the chunk, or the stand-in. -/
def shown (c : List UInt8) : Text := if c = [] then missingByte else showChunk c

variable {a b : List UInt8}

theorem isMasked_shown (hlen : a.length ≤ 2) : isMasked (shown a) = true ↔ maskByte ∈ a := by
  have hmask : isMasked (shown a) = true ↔ maskChar ∈ shown a := by
    simp [isMasked]
  rw [hmask, shown]
  split
  next h =>
    subst h
    decide
  next => exact mem_showChunk_ascii hlen (by decide)

/-- Only two dashes show what the stand-in shows. -/
theorem showChunk_eq_missingByte (hlen : a.length ≤ 2) :
    showChunk a = missingByte ↔ a = dashes := by
  constructor
  · intro h
    rw [← utf8_showChunk hlen (by rw [h]; decide), h]
    decide
  · rintro rfl
    decide

theorem shown_eq_iff (ha : a.length ≤ 2) (hb : b.length ≤ 2) :
    shown a = shown b ↔ a = b ∨ (a = dashes ∧ b = [] ∨ a = [] ∧ b = dashes) ∨
      replacement ∈ showChunk a ∧ showChunk a = showChunk b := by
  by_cases hanil : a = []
  · subst hanil
    by_cases hbnil : b = []
    · subst hbnil
      simp
    · rw [shown, shown, if_pos rfl, if_neg hbnil, eq_comm, showChunk_eq_missingByte hb]
      simp [showChunk, Ne.symm hbnil, dashes]
  · by_cases hbnil : b = []
    · subst hbnil
      rw [shown, shown, if_pos rfl, if_neg hanil, showChunk_eq_missingByte ha]
      have hnone : ¬ (replacement ∈ showChunk a ∧ showChunk a = []) := by
        rintro ⟨hmem, hnil⟩
        rw [hnil] at hmem
        cases hmem
      simp [hanil, hnone, show showChunk [] = [] from rfl]
    · rw [shown, shown, if_neg hanil, if_neg hbnil]
      simp only [hanil, hbnil, and_false, false_and, or_false, false_or]
      constructor
      · intro h
        by_cases hrep : replacement ∈ showChunk a
        · exact Or.inr ⟨hrep, h⟩
        · refine Or.inl ?_
          rw [← utf8_showChunk ha hrep, h, utf8_showChunk hb (h ▸ hrep)]
      · rintro (rfl | ⟨-, h⟩)
        · rfl
        · exact h

/-- **Two chunks pass exactly if they are equal or blind.** -/
theorem difference?_eq_none_iff (ha : a.length ≤ 2) (hb : b.length ≤ 2) (p : Nat) :
    difference? p (shown a) (shown b) = none ↔ a = b ∨ Blind a b := by
  have hnone : difference? p (shown a) (shown b) = none ↔
      (isMasked (shown a) = true ∨ isMasked (shown b) = true) ∨ shown a = shown b := by
    rw [difference?]
    cases isMasked (shown a) <;> cases isMasked (shown b) <;> simp
  rw [hnone, isMasked_shown ha, isMasked_shown hb, shown_eq_iff ha hb, Blind]
  exact or_left_comm

/-- No byte of digits is one of the signs. -/
theorem ne_of_mem_utf8 {t : Text} (ht : Digits t) {b : UInt8} (h : b ∈ utf8 t) :
    b ≠ maskByte ∧ b ≠ 0x2D := by
  rw [utf8_ascii ht.ascii] at h
  obtain ⟨c, hc, rfl⟩ := List.mem_map.mp h
  exact of_digit (P := fun c => c.toNat.toUInt8 ≠ maskByte ∧ c.toNat.toUInt8 ≠ 0x2D) (by decide)
    (ht c hc)

theorem mem_of_mem_chunk {bytes : List UInt8} {p : Nat} {b : UInt8} (h : b ∈ chunk bytes p) :
    b ∈ bytes :=
  List.mem_of_mem_drop (List.mem_of_mem_take h)

/-- **Chunks of digits are never blind.** -/
theorem not_blind_of_digits {d r : Text} (hd : Digits d) (hr : Digits r) (p : Nat) :
    ¬ Blind (chunk (utf8 d) p) (chunk (utf8 r) p) := by
  have hbyte : ∀ {t : Text}, Digits t → ∀ b ∈ chunk (utf8 t) p, b ≠ maskByte ∧ b ≠ 0x2D :=
    fun ht b hb => ne_of_mem_utf8 ht (mem_of_mem_chunk hb)
  have hdash : ∀ {t : Text}, Digits t → chunk (utf8 t) p ≠ dashes := fun ht h =>
    (hbyte ht 0x2D (by rw [h]; decide)).2 rfl
  rintro ((h | h) | (⟨h, -⟩ | ⟨-, h⟩) | ⟨hrep, -⟩)
  · exact (hbyte hd maskByte h).1 rfl
  · exact (hbyte hr maskByte h).1 rfl
  · exact hdash hd h
  · exact hdash hr h
  · rw [showChunk_ascii hd.ascii] at hrep
    exact hd.notMem (by decide) (List.mem_of_mem_drop (List.mem_of_mem_take hrep))

/-! ## All positions -/

theorem getD_pairs_eq_shown (bytes : List UInt8) (p : Nat) :
    (pairs bytes).getD p missingByte = shown (chunk bytes p) := by
  rw [List.getD_eq_getElem?_getD, getElem?_pairs, shown]
  split <;> rfl

/-- Comparing behind the marks, with the chunks in sight. -/
theorem compare_identical_iff (d r : Text) :
    (compare ('0' :: 'x' :: d) ('0' :: 'x' :: r)).identical = true ↔
      ∀ p, chunk (utf8 d) p = chunk (utf8 r) p ∨ Blind (chunk (utf8 d) p) (chunk (utf8 r) p) := by
  have hpos : ∀ p, difference? p (shown (chunk (utf8 d) p)) (shown (chunk (utf8 r) p)) = none ↔
      chunk (utf8 d) p = chunk (utf8 r) p ∨ Blind (chunk (utf8 d) p) (chunk (utf8 r) p) :=
    fun p => difference?_eq_none_iff (length_chunk_le _ p) (length_chunk_le _ p) p
  rw [compare_marked]
  simp only [differences_align, getD_pairs_eq_shown, List.isEmpty_iff, List.filterMap_eq_nil_iff,
    List.mem_range, hpos]
  constructor
  · intro h p
    rcases Nat.lt_or_ge p (max (pairs (utf8 d)).length (pairs (utf8 r)).length) with hlt | hge
    · exact h p hlt
    · -- Behind both ends there is nothing to compare.
      rw [length_pairs, length_pairs] at hge
      left
      rw [chunk_eq_nil_iff.mpr (by omega), chunk_eq_nil_iff.mpr (by omega)]
  · exact fun h p _ => h p

variable {name : String} {deployed reference : Text} {dv rv : Registry}

/-- Without values and absent features the two stripped bodies are compared as they are. -/
theorem compareContract_unmasked (hdv : dv.get name = []) (hrv : rv.get name = [])
    (habsent : absentAddresses name = []) :
    compareContract name deployed reference dv rv =
      compare ('0' :: 'x' :: strippedBody deployed) ('0' :: 'x' :: strippedBody reference) := by
  rw [compareContract, normalize, hdv, hrv, zeroAbsentFeatures_eq, if_pos habsent]
  rfl

/-- **What passes without masks is equal**, up to case, unless a position is blind. The positions
at which codes pass are exactly those that are equal or blind, and digits are not blind. -/
theorem stripped_eq_of_identical (hdv : dv.get name = []) (hrv : rv.get name = [])
    (habsent : absentAddresses name = []) :
    let d := strippedBody deployed
    let r := strippedBody reference
    let report := compareContract name deployed reference dv rv
    (report.identical = true → (∀ p, ¬ Blind (chunk (utf8 d) p) (chunk (utf8 r) p)) → d = r) ∧
      (report.identical = true ↔
        ∀ p, chunk (utf8 d) p = chunk (utf8 r) p ∨ Blind (chunk (utf8 d) p) (chunk (utf8 r) p)) ∧
      (Digits (body deployed) → Digits (body reference) → (report.identical = true ↔ d = r)) := by
  intro d r report
  have hiff : report.identical = true ↔ _ :=
    @compareContract_unmasked name deployed reference dv rv hdv hrv habsent ▸
      compare_identical_iff d r
  have heq : report.identical = true →
      (∀ p, ¬ Blind (chunk (utf8 d) p) (chunk (utf8 r) p)) → d = r := fun hid hclear =>
    utf8_injective (eq_of_chunk_eq fun p => (hiff.mp hid p).resolve_right (hclear p))
  refine ⟨heq, hiff, fun hd hr => ⟨fun hid => heq hid ?_, fun h => hiff.mpr fun p => ?_⟩⟩
  · exact not_blind_of_digits (digits_strippedBody hd) (digits_strippedBody hr)
  · rw [h]
    exact Or.inl rfl

/-- Two codes of a contract that embeds nothing, equal in all but the case of their digits. -/
theorem stripped_eq_of_identical_tickLens :
    strippedBody "0x60Ff".toList = strippedBody "60fF".toList := by
  refine (@stripped_eq_of_identical "TickLens" "0x60Ff".toList "60fF".toList
    (Registry.ofDeployment [] []) Registry.canonical (by decide +kernel) (by decide +kernel)
    (by decide +kernel)).1 (by decide +kernel) ?_
  exact not_blind_of_digits (by decide +kernel) (by decide +kernel)

/-- A text in which the mask character stands passes against any code of its size, one of two
dashes against none, and half a character against half of another. -/
theorem identical_of_blind :
    let fork := Registry.ofDeployment [] []
    let passes (d r : String) : Bool :=
      (compareContract "TickLens" d.toList r.toList fork Registry.canonical).identical &&
        strippedBody d.toList != strippedBody r.toList
    fork.get "TickLens" = [] ∧ Registry.canonical.get "TickLens" = [] ∧
      absentAddresses "TickLens" = [] ∧ passes "xx" "ab" ∧ passes "ab--" "ab" ∧
      passes "aéb" "aèb" := by
  decide +kernel

end BytecodeParity.Code
