import BytecodeParity.Code.Metadata
import BytecodeParity.Proofs.Hex.Digits
import BytecodeParity.Proofs.Text.Cuts
/-!
# What is cut off a code

A compiler writes the length of the metadata behind it, in two bytes, so as four hexadecimal digits.
`stripMetadata` asks a reader of numbers what the last four characters say, and that reader knows
one more way to write a number: a plus sign, and three digits behind it. A body that ends so has no
length field and is cut as if it had one.

This file says what is cut off any text, digits or not (`stripMetadata_exact`): the trailer that the
length field declares if there is one, nothing if not, **and the plus sign is the only exception**.
On digits there is no plus sign, which is why nothing of it is seen in `cutSize_of_digits`.

A size is counted in bytes here and a length field in characters. The two meet in `LeftOf`, where a
body is divided between two characters or not at all.
-/

namespace BytecodeParity.Code

open Hex Text

variable {code b field kept : Text} {m n : Nat}

/-! ## The last four characters -/

/-- Four hexadecimal digits, and the number they denote. -/
structure LengthField (field : Text) (n : Nat) : Prop where
  digits : Digits field
  length : field.length = 4
  value : Numeral.value 16 field = n

/-- A plus sign in front of three hexadecimal digits, and the number they denote. -/
def SignedField (field : Text) (n : Nat) : Prop :=
  ∃ digits, field = '+' :: digits ∧ Digits digits ∧ digits.length = 3 ∧
    Numeral.value 16 digits = n

/-- A body ends in a field that says `n`. -/
def Declares (Field : Text → Nat → Prop) (b : Text) (n : Nat) : Prop :=
  ∃ front field, b = front ++ field ∧ Field field n

theorem SignedField.length (h : SignedField field n) : field.length = 4 := by
  obtain ⟨digits, rfl, -, hlen, -⟩ := h
  simp [hlen]

theorem declares_iff {Field : Text → Nat → Prop} (hfour : ∀ {f n}, Field f n → f.length = 4) :
    Declares Field b n ↔ 4 ≤ b.length ∧ Field (b.drop (b.length - 4)) n := by
  constructor
  · rintro ⟨front, field, rfl, hfield⟩
    have hlen := hfour hfield
    refine ⟨by simp [hlen], ?_⟩
    have hfront : (front ++ field).length - 4 = front.length := by simp [hlen]
    rw [hfront, List.drop_left]
    exact hfield
  · rintro ⟨-, hfield⟩
    exact ⟨_, _, (List.take_append_drop (b.length - 4) b).symm, hfield⟩

/-- **What four characters are read as.** -/
theorem read?_field (hlen : field.length = 4) (hn : n < 100) :
    Numeral.read? 16 UInt16.size field = some n ↔ LengthField field n ∨ SignedField field n := by
  have hbelow : n < UInt16.size := Nat.lt_trans hn (by decide)
  rw [Numeral.read?_eq_some_iff (by decide) (by decide)]
  constructor
  · rintro ⟨digits, rfl | rfl, -, hdigits, hvalue, -⟩
    · exact .inl ⟨hdigits, hlen, hvalue⟩
    · exact .inr ⟨digits, rfl, hdigits, by simpa using hlen, hvalue⟩
  · rintro (⟨hdigits, -, hvalue⟩ | ⟨digits, rfl, hdigits, hthree, hvalue⟩)
    · exact ⟨field, .inl rfl, List.ne_nil_of_length_eq_add_one hlen, hdigits, hvalue, hbelow⟩
    · exact ⟨digits, .inr rfl, List.ne_nil_of_length_eq_add_one hthree, hdigits, hvalue, hbelow⟩

theorem trailerSize?_eq_some_iff :
    trailerSize? b = some m ↔
      ∃ n, (Declares LengthField b n ∨ Declares SignedField b n) ∧ 0 < n ∧ n < 100 ∧
        m = 2 * n + 4 := by
  simp only [declares_iff LengthField.length, declares_iff SignedField.length, ← and_or_left]
  unfold trailerSize?
  split
  next hshort =>
    -- Too short a body declares nothing.
    have hfour : ¬ 4 ≤ b.length := Nat.not_le.mpr hshort
    simp [hfour]
  next hlong =>
    have hfour : 4 ≤ b.length := Nat.not_lt.mp hlong
    have hfield : (b.drop (b.length - 4)).length = 4 := by simp; omega
    simp only [Option.bind_eq_bind, Option.bind_eq_some_iff]
    constructor
    · rintro ⟨n, hread, hsize⟩
      split at hsize
      next hn =>
        refine ⟨n, ⟨hfour, (read?_field hfield hn.2).mp hread⟩, hn.1, hn.2, ?_⟩
        exact (Option.some.inj hsize).symm
      · cases hsize
    · rintro ⟨n, ⟨-, hn⟩, hpos, hbelow, rfl⟩
      exact ⟨n, (read?_field hfield hbelow).mpr hn, if_pos ⟨hpos, hbelow⟩⟩

/-! ## The cut -/

/-- What is left of a body when a block of `n` bytes is taken off its end, two characters to the
byte, and the length field with it. -/
structure LeftOf (b kept : Text) (n : Nat) : Prop where
  positive : 0 < n
  below : n < 100
  cut : ∃ trailer, b = kept ++ trailer ∧ byteSize trailer = 2 * n + 4
  ne_nil : kept ≠ []

theorem LeftOf.ne_self (h : LeftOf b kept n) : kept ≠ b := by
  obtain ⟨trailer, hbody, hsize⟩ := h.cut
  intro heq
  have hnil : trailer = [] := List.self_eq_append_right.mp (heq.trans hbody)
  rw [hnil, byteSize_nil] at hsize
  omega

/-- A body and what is left of it behind its trailer, if that is anything. -/
theorem dropTrailer_eq_some_iff :
    ((trailerSize? b).bind fun n => dropLastBytes? n b) = some kept ∧ kept ≠ [] ↔
      ∃ n, (Declares LengthField b n ∨ Declares SignedField b n) ∧ LeftOf b kept n := by
  simp only [Option.bind_eq_some_iff, trailerSize?_eq_some_iff, dropLastBytes?_eq_some_iff]
  constructor
  · rintro ⟨⟨m, ⟨n, hfield, hpos, hbelow, rfl⟩, trailer, hbody, hsize⟩, hne⟩
    exact ⟨n, hfield, hpos, hbelow, ⟨trailer, hbody.symm, hsize⟩, hne⟩
  · rintro ⟨n, hfield, hpos, hbelow, ⟨trailer, hbody, hsize⟩, hne⟩
    exact ⟨⟨2 * n + 4, ⟨n, hfield, hpos, hbelow, rfl⟩, trailer, hbody.symm, hsize⟩, hne⟩

theorem stripMetadata_of_leftOf
    (hfield : Declares LengthField (body code) n ∨ Declares SignedField (body code) n)
    (h : LeftOf (body code) kept n) : stripMetadata code = (splitMark code).1 ++ kept := by
  obtain ⟨hdrop, hne⟩ := dropTrailer_eq_some_iff.mpr ⟨n, hfield, h⟩
  have hdrop' : ((trailerSize? (splitMark code).2).bind fun n =>
      dropLastBytes? n (splitMark code).2) = some kept := hdrop
  unfold stripMetadata
  dsimp only
  rw [hdrop']
  cases kept with
  | nil => exact absurd rfl hne
  | cons c kept => rfl

theorem stripMetadata_of_not
    (h : ∀ n kept, Declares LengthField (body code) n ∨ Declares SignedField (body code) n →
      ¬ LeftOf (body code) kept n) : stripMetadata code = code := by
  unfold stripMetadata
  dsimp only
  split
  next c kept hdrop =>
    obtain ⟨n, hfield, hleft⟩ := dropTrailer_eq_some_iff.mp ⟨hdrop, List.cons_ne_nil c kept⟩
    exact absurd hleft (h n _ hfield)
  · rfl

/-- **Exactly the trailer is cut off**, of any text: what the length field declares, if there is a
length field, the block is of a plausible length and there is something in front of it. Any other
text stays as it is, unless it ends in a plus sign and three digits. It is cut then by what these
declare. -/
theorem stripMetadata_exact (code : Text) :
    (∀ n kept, Declares LengthField (body code) n → LeftOf (body code) kept n →
      stripMetadata code = (splitMark code).1 ++ kept) ∧
    ((∀ n kept, Declares LengthField (body code) n → ¬ LeftOf (body code) kept n) →
      (stripMetadata code = code ↔
        ∀ n kept, Declares SignedField (body code) n → ¬ LeftOf (body code) kept n)) ∧
    (∀ n kept, Declares SignedField (body code) n → LeftOf (body code) kept n →
      stripMetadata code = (splitMark code).1 ++ kept) := by
  refine ⟨fun n kept hfield => stripMetadata_of_leftOf (.inl hfield), fun hnone => ⟨?_, ?_⟩,
    fun n kept hfield => stripMetadata_of_leftOf (.inr hfield)⟩
  · intro hsame n kept hfield hleft
    -- What is left is shorter than the body it is left of.
    have hcut := stripMetadata_of_leftOf (.inr hfield) hleft
    rw [hsame] at hcut
    have hwhole : (splitMark code).1 ++ kept = (splitMark code).1 ++ body code := by
      rw [← hcut, mark_append_body]
    exact hleft.ne_self (List.append_cancel_left hwhole)
  · intro hsigned
    apply stripMetadata_of_not
    rintro n kept (hfield | hfield)
    · exact hnone n kept hfield
    · exact hsigned n kept hfield

/-- A field with a plus sign cuts like the length field of the same number, and a trailer may hold
any text. -/
theorem stripMetadata_exact_plus :
    stripMetadata "0xbbaa+001".toList = "0xbb".toList ∧
      stripMetadata "0Xbbé0001".toList = "0Xbb".toList ∧
      stripMetadata "0x6080zzzz".toList = "0x6080zzzz".toList := by
  refine ⟨?_, ?_, ?_⟩
  · exact (stripMetadata_exact "0xbbaa+001".toList).2.2 1 "bb".toList
      ⟨"bbaa".toList, "+001".toList, by decide +kernel,
        "001".toList, by decide +kernel, by decide +kernel, by decide +kernel, by decide +kernel⟩
      ⟨by decide, by decide, ⟨"aa+001".toList, by decide +kernel, by decide +kernel⟩,
        by decide +kernel⟩
  · exact (stripMetadata_exact "0Xbbé0001".toList).1 1 "bb".toList
      ⟨"bbé".toList, "0001".toList, by decide +kernel,
        by decide +kernel, by decide +kernel, by decide +kernel⟩
      ⟨by decide, by decide, ⟨"é0001".toList, by decide +kernel, by decide +kernel⟩,
        by decide +kernel⟩
  · refine ((stripMetadata_exact "0x6080zzzz".toList).2.1 ?_).mpr ?_
    · intro n kept hfield
      have hdigits := ((declares_iff LengthField.length).mp hfield).2.digits
      exact absurd hdigits (by decide +kernel)
    · intro n kept hfield
      obtain ⟨digits, hplus, -⟩ := ((declares_iff SignedField.length).mp hfield).2
      have hhead := congrArg List.head? hplus
      rw [List.head?_cons] at hhead
      exact absurd hhead (by decide +kernel)

end BytecodeParity.Code
