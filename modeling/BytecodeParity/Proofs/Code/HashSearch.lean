import BytecodeParity.Code.PoolHash
import BytecodeParity.Proofs.Text.Scan
import BytecodeParity.Proofs.Contract.Registry
/-!
# What the search for a hash tells

`locatePoolHash` looks for the expected hash first and for the reference hash only if that is
nowhere in the code. The three answers are told apart by two questions, whether each of the hashes
occurs (`locatePoolHash_cases`), and the first answer is given on the first question alone.

So **a code that carries the expected hash is found to carry it whatever else it carries**
(`found_iff_occurs`). A reference hash that was left in the code next to the expected one is not
told, and no choice of the two hashes rules such codes out.
-/

namespace BytecodeParity

open Hex

namespace Text

variable {needle t : Text}

/-! ## Searching -/

/-- **A search finds what is part of the text.** -/
theorem isSome_offset?_iff : (offset? needle t).isSome = true ↔ needle <:+: t := by
  induction t with
  | nil => cases needle <;> simp [offset?]
  | cons c t ih =>
    rw [List.infix_cons_iff, ← ih, offset?]
    by_cases h : needle <+: c :: t
    · rw [if_pos (List.isPrefixOf_iff_prefix.mpr h)]
      exact iff_of_true rfl (Or.inl h)
    · rw [if_neg (mt List.isPrefixOf_iff_prefix.mp h), Option.isSome_map, or_iff_right h]

theorem occurs_iff : occurs needle t = true ↔ needle <:+: t :=
  isSome_offset?_iff

/-- Digits are one byte each, so that an offset is a position. It is that of an occurrence, and
nothing occurs in front of it. -/
theorem of_offset? (ht : Digits t) {n : Nat} (h : offset? needle t = some n) :
    occursAt needle t n = true ∧ ∀ j < n, occursAt needle t j = false := by
  induction t generalizing n with
  | nil =>
    cases needle with
    | nil =>
      obtain rfl : n = 0 := by simpa [offset?] using h.symm
      exact ⟨rfl, fun j hj => absurd hj (Nat.not_lt_zero j)⟩
    | cons d needle => simp [offset?] at h
  | cons c t ih =>
    rw [offset?] at h
    split at h
    next hfront =>
      obtain rfl := Option.some.inj h
      exact ⟨hfront, fun j hj => absurd hj (Nat.not_lt_zero j)⟩
    next hfront =>
      obtain ⟨m, hm, rfl⟩ := Option.map_eq_some_iff.mp h
      obtain ⟨hat, hbefore⟩ := ih (fun d hd => ht d (List.mem_cons_of_mem c hd)) hm
      rw [utf8Size_of_digit (ht c List.mem_cons_self), Nat.add_comm]
      refine ⟨hat, fun j hj => ?_⟩
      cases j with
      | zero => exact Bool.eq_false_iff.mpr hfront
      | succ j => exact hbefore j (Nat.lt_of_succ_lt_succ hj)

end Text

namespace Code

open Text

variable {code expected reference : Text}

/-! ## The three answers -/

/-- A value is carried by a code if its raw form is part of the body in small letters. A value of
which nothing is left in raw form is carried by none. -/
def Carries (code value : Text) : Prop := raw value ≠ [] ∧ raw value <:+: lower (body code)

/-- **The answers and the questions that decide them.** -/
theorem locatePoolHash_cases (code expected reference : Text) :
    (Carries code expected ∧ ∃ n, offset? (raw expected) (lower (body code)) = some n ∧
        locatePoolHash code expected reference = .found (n / 2)) ∨
      (¬ Carries code expected ∧ Carries code reference ∧
        locatePoolHash code expected reference = .referenceFound) ∨
      (¬ Carries code expected ∧ ¬ Carries code reference ∧
        locatePoolHash code expected reference = .missing) := by
  by_cases he : Carries code expected
  · left
    obtain ⟨hne, hpart⟩ := he
    obtain ⟨n, hn⟩ := Option.isSome_iff_exists.mp (isSome_offset?_iff.mpr hpart)
    refine ⟨⟨hne, hpart⟩, n, hn, ?_⟩
    rw [locatePoolHash, if_neg (by simpa using hne), hn]
  · right
    have hnone : (if (raw expected).isEmpty then none
        else offset? (raw expected) (lower (body code))) = none := by
      by_cases hnil : raw expected = []
      · rw [if_pos (by simp [hnil])]
      · rw [if_neg (by simpa using hnil), ← Option.not_isSome_iff_eq_none, isSome_offset?_iff]
        exact fun hpart => he ⟨hnil, hpart⟩
    have hquestion : (!(raw reference).isEmpty && occurs (raw reference) (lower (body code))) = true
        ↔ Carries code reference := by
      rw [Bool.and_eq_true, occurs_iff, Carries, Bool.not_eq_true', List.isEmpty_eq_false_iff]
    by_cases hr : Carries code reference
    · left
      refine ⟨he, hr, ?_⟩
      rw [locatePoolHash, hnone]
      exact if_pos (hquestion.mpr hr)
    · right
      refine ⟨he, hr, ?_⟩
      rw [locatePoolHash, hnone]
      exact if_neg (mt hquestion.mp hr)

/-- The first answer is given on the first question alone. -/
theorem found_iff_carries (code expected reference : Text) :
    (∃ byte, locatePoolHash code expected reference = .found byte) ↔ Carries code expected := by
  rcases locatePoolHash_cases code expected reference with
    ⟨he, n, -, hl⟩ | ⟨he, -, hl⟩ | ⟨he, -, hl⟩
  · exact iff_of_true ⟨n / 2, hl⟩ he
  · simp [hl, he]
  · simp [hl, he]

/-- It tells the offset of the search, halved. -/
theorem offset?_of_found {byte : Nat} (h : locatePoolHash code expected reference = .found byte) :
    ∃ n, n / 2 = byte ∧ offset? (raw expected) (lower (body code)) = some n := by
  rcases locatePoolHash_cases code expected reference with
    ⟨-, n, hn, hl⟩ | ⟨-, -, hl⟩ | ⟨-, -, hl⟩
  · rw [hl] at h
    exact ⟨n, HashLocation.found.inj h, hn⟩
  · rw [hl] at h
    cases h
  · rw [hl] at h
    cases h

/-- Digits are carried in either case of their letters. -/
theorem carries_iff {value : Text} (h : Digits value) (hne : value ≠ []) :
    Carries code value ↔ lower value <:+: lower (body code) := by
  rw [Carries, h.raw_eq]
  exact and_iff_right (lower_ne_nil hne)

/-- A hash as it is written in digits. -/
structure Hash (t : Text) : Prop where
  digits : Digits t
  length_eq : t.length = 64

instance (t : Text) : Decidable (Hash t) :=
  decidable_of_iff (Digits t ∧ t.length = 64) ⟨fun h => ⟨h.1, h.2⟩, fun h => ⟨h.1, h.2⟩⟩

theorem Hash.ne_nil {t : Text} (h : Hash t) : t ≠ [] := by
  rintro rfl
  exact absurd h.length_eq (by decide)

/-- Of texts of digits written one behind the other, the code carries each. -/
theorem carries_of_mem_split {front value back : Text} (hfront : Digits front)
    (h : Hash value) (hback : Digits back) : Carries (front ++ value ++ back) value := by
  rw [carries_iff h.digits h.ne_nil, ((hfront.append h.digits).append hback).body_eq, lower_append,
    lower_append]
  exact ⟨lower front, lower back, rfl⟩

/-- **What a search that finds the expected hash tells, and what it does not.** The expected hash is
found exactly if the code carries it, at the byte of its first occurrence, and the reference hash is
told exactly if the code carries it and not the expected one. So in a code that carries both the
expected hash is found and nothing else is told, and of any two hashes there are such codes, in
either order. -/
theorem found_iff_occurs (hcode : Digits (body code)) (hexpected : Hash expected)
    (hreference : Hash reference) :
    ((∃ byte, locatePoolHash code expected reference = .found byte) ↔ Carries code expected) ∧
    (∀ byte, locatePoolHash code expected reference = .found byte →
      ∃ n, n / 2 = byte ∧ occursAt (lower expected) (lower (body code)) n = true ∧
        ∀ j < n, occursAt (lower expected) (lower (body code)) j = false) ∧
    (locatePoolHash code expected reference = .referenceFound ↔
      ¬ Carries code expected ∧ Carries code reference) ∧
    ∀ both ∈ [expected ++ reference, reference ++ expected],
      Carries both reference ∧ ∃ byte, locatePoolHash both expected reference = .found byte := by
  have hfound : (∃ byte, locatePoolHash code expected reference = .found byte) ↔
      Carries code expected := found_iff_carries code expected reference
  refine ⟨hfound, ?_, ?_, ?_⟩
  · intro byte hbyte
    obtain ⟨n, hn, hoffset⟩ := offset?_of_found hbyte
    rw [hexpected.digits.raw_eq] at hoffset
    exact ⟨n, hn, of_offset? hcode.lower hoffset⟩
  · rcases locatePoolHash_cases code expected reference with
      ⟨he, n, -, hl⟩ | ⟨he, hr, hl⟩ | ⟨he, hr, hl⟩
    · simp [hl, he]
    · simp [hl, he, hr]
    · simp [hl, hr]
  · have hnil : Digits [] := List.forall_mem_nil _
    intro both hboth
    rw [found_iff_carries]
    rcases List.mem_pair.mp hboth with rfl | rfl
    · have hfirst := carries_of_mem_split hnil hexpected hreference.digits
      have hsecond := carries_of_mem_split hexpected.digits hreference hnil
      exact ⟨by simpa using hsecond, by simpa using hfirst⟩
    · have hfirst := carries_of_mem_split hnil hreference hexpected.digits
      have hsecond := carries_of_mem_split hreference.digits hexpected hnil
      exact ⟨by simpa using hfirst, by simpa using hsecond⟩

/-- A code that pushes the hash of its deployment and then the canonical one: only the first is
told. -/
theorem found_iff_occurs_leftover :
    let own := List.replicate 64 'a'
    let canonical := List.replicate 64 'B'
    let code := "0x7f".toList ++ own ++ "7f".toList ++ canonical
    Carries code canonical ∧ (∃ byte, locatePoolHash code own canonical = .found byte) ∧
      locatePoolHash code own canonical ≠ .referenceFound := by
  intro own canonical code
  obtain ⟨hfound, -, hreference, -⟩ :=
    @found_iff_occurs code own canonical (by decide +kernel) ⟨by decide, rfl⟩ ⟨by decide, rfl⟩
  have hown : Carries code own :=
    ⟨by decide, "7f".toList, "7f".toList ++ lower canonical, rfl⟩
  have hcanonical : Carries code canonical :=
    ⟨by decide, "7f".toList ++ own ++ "7f".toList, [], rfl⟩
  refine ⟨hcanonical, hfound.mpr hown, ?_⟩
  exact fun h => (hreference.mp h).1 hown

end Code

end BytecodeParity
