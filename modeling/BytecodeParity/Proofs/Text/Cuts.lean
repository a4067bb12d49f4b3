import BytecodeParity.Proofs.Numeral
import BytecodeParity.Proofs.Text.Chunks
import BytecodeParity.Proofs.Text.Size
/-!
# Cuts between bytes

A text is cut at a number of bytes, and the cut has to fall between two characters. `cutAt?` says
what stands on either side, and whether there is such a cut at all: its answers are the fronts of
that size and no others (`cutAt?_eq_some_iff`). Dropping bytes from the front and from the end are
two ways to name the same cut (`dropBytes?_eq`, `dropLastBytes?_eq`), and the last four characters
are the last four bytes of a text wherever they read as a number (`read?_lastBytes`).
-/

namespace BytecodeParity

namespace Text

variable {n : Nat} {s t front front' back back' : Text}

/-- Cuts a text behind its first `n` bytes. There is no answer when the text is shorter or when the
cut would fall inside a character. -/
def cutAt? : Nat → Text → Option (Text × Text)
  | 0, t => some ([], t)
  | _ + 1, [] => none
  | n + 1, c :: t =>
    if c.utf8Size ≤ n + 1 then
      (cutAt? (n + 1 - c.utf8Size) t).map fun parts => (c :: parts.1, parts.2)
    else none

/-- Behind any front there is a cut. -/
theorem cutAt?_byteSize (front back : Text) :
    cutAt? (byteSize front) (front ++ back) = some (front, back) := by
  induction front with
  | nil => rw [byteSize_nil, List.nil_append, cutAt?]
  | cons c front ih =>
    have hpos : 0 < c.utf8Size := Char.utf8Size_pos c
    obtain ⟨n, hn⟩ : ∃ n, byteSize (c :: front) = n + 1 :=
      Nat.exists_eq_add_one_of_ne_zero (by rw [byteSize_cons]; omega)
    have hrest : n + 1 - c.utf8Size = byteSize front := by
      rw [← hn, byteSize_cons, Nat.add_sub_cancel_left]
    rw [byteSize_cons] at hn
    rw [byteSize_cons, hn, List.cons_append, cutAt?, if_pos (by omega), hrest, ih]
    rfl

/-- A cut divides the text, and its front has the size asked for. -/
theorem of_cutAt? (h : cutAt? n t = some (front, back)) :
    front ++ back = t ∧ byteSize front = n := by
  induction n, t using cutAt?.induct generalizing front with
  | case1 t =>
    rw [cutAt?] at h
    obtain ⟨rfl, rfl⟩ := Prod.mk.inj (Option.some.inj h)
    exact ⟨rfl, rfl⟩
  | case2 n => cases h
  | case3 n c t hle ih =>
    rw [cutAt?, if_pos hle, Option.map_eq_some_iff] at h
    obtain ⟨⟨front, back⟩, hrest, heq⟩ := h
    obtain ⟨rfl, rfl⟩ := Prod.mk.inj heq
    obtain ⟨rfl, hsize⟩ := ih hrest
    refine ⟨rfl, ?_⟩
    rw [byteSize_cons, hsize]
    omega
  | case4 n c t hle =>
    rw [cutAt?, if_neg hle] at h
    cases h

/-- **A cut is a front of the size asked for, and what follows it.** -/
theorem cutAt?_eq_some_iff :
    cutAt? n t = some (front, back) ↔ front ++ back = t ∧ byteSize front = n := by
  constructor
  · exact of_cutAt?
  · rintro ⟨rfl, rfl⟩
    exact cutAt?_byteSize front back

/-- Dropping bytes from the front is a cut. -/
theorem dropBytes?_eq (n : Nat) (t : Text) : dropBytes? n t = (cutAt? n t).map Prod.snd := by
  induction t generalizing n with
  | nil =>
    cases n with
    | zero => rfl
    | succ n => rfl
  | cons c t ih =>
    cases n with
    | zero => rfl
    | succ n =>
      rw [dropBytes?, cutAt?]
      split
      · rw [ih, Option.map_map]
        rfl
      · rfl

theorem dropBytes?_eq_some_iff :
    dropBytes? n t = some back ↔ ∃ front, front ++ back = t ∧ byteSize front = n := by
  rw [dropBytes?_eq, Option.map_eq_some_iff]
  constructor
  · rintro ⟨⟨front, back⟩, hcut, rfl⟩
    exact ⟨front, cutAt?_eq_some_iff.mp hcut⟩
  · rintro ⟨front, hcut⟩
    exact ⟨(front, back), cutAt?_eq_some_iff.mpr hcut, rfl⟩

theorem byteSize_reverse (t : Text) : byteSize t.reverse = byteSize t := by
  induction t with
  | nil => rfl
  | cons c t ih =>
    rw [List.reverse_cons, byteSize_append, ih, byteSize_cons, byteSize_cons, byteSize_nil,
      Nat.add_zero, Nat.add_comm]

theorem dropLastBytes?_eq_some_iff :
    dropLastBytes? n t = some front ↔ ∃ back, front ++ back = t ∧ byteSize back = n := by
  rw [dropLastBytes?, Option.map_eq_some_iff]
  constructor
  · rintro ⟨rest, hdrop, rfl⟩
    obtain ⟨tail, htail, hsize⟩ := dropBytes?_eq_some_iff.mp hdrop
    refine ⟨tail.reverse, ?_, (byteSize_reverse tail).trans hsize⟩
    rw [← List.reverse_append, htail, List.reverse_reverse]
  · rintro ⟨back, rfl, hsize⟩
    refine ⟨front.reverse, dropBytes?_eq_some_iff.mpr ⟨back.reverse, ?_, ?_⟩,
      List.reverse_reverse front⟩
    · rw [List.reverse_append]
    · rw [byteSize_reverse, hsize]

/-- **Dropping bytes from the end is a cut**, counted from the front. -/
theorem dropLastBytes?_eq (h : n ≤ byteSize t) :
    dropLastBytes? n t = (cutAt? (byteSize t - n) t).map Prod.fst := by
  refine Option.ext fun front => ?_
  rw [dropLastBytes?_eq_some_iff, Option.map_eq_some_iff]
  constructor
  · rintro ⟨back, rfl, rfl⟩
    refine ⟨(front, back), cutAt?_eq_some_iff.mpr ⟨rfl, ?_⟩, rfl⟩
    rw [byteSize_append, Nat.add_sub_cancel]
  · rintro ⟨⟨front, back⟩, hcut, rfl⟩
    obtain ⟨rfl, hsize⟩ := cutAt?_eq_some_iff.mp hcut
    refine ⟨back, rfl, ?_⟩
    rw [byteSize_append] at h hsize
    omega

/-- As many bytes as there are, and more, leave nothing. -/
theorem dropLastBytes?_of_le (h : byteSize t ≤ n) :
    dropLastBytes? n t = none ∨ dropLastBytes? n t = some [] := by
  cases hdrop : dropLastBytes? n t with
  | none => exact Or.inl rfl
  | some front =>
    obtain ⟨back, rfl, rfl⟩ := dropLastBytes?_eq_some_iff.mp hdrop
    rw [byteSize_append] at h
    have hfront : front = [] := by
      by_contra hne
      have hpos : 0 < byteSize front := byteSize_pos hne
      omega
    rw [hfront]
    exact Or.inr rfl

theorem length_le_byteSize (t : Text) : t.length ≤ byteSize t := by
  induction t with
  | nil => exact Nat.le_refl 0
  | cons c t ih =>
    have hpos : 0 < c.utf8Size := Char.utf8Size_pos c
    rw [List.length_cons, byteSize_cons]
    omega

/-! ## Numbers at the end -/

/-- Text of one byte a character has as many bytes as characters. -/
theorem Ascii.byteSize_eq (h : Ascii t) : byteSize t = t.length := by
  rw [← length_utf8_eq_byteSize, length_utf8 h]

end Text

namespace Numeral

variable {base bound n m : Nat} {c : Char} {t : Text}

theorem toNat_lt_of_digitValue? (h : digitValue? base c = some n) : c.toNat < 0x80 := by
  by_contra hge
  have h9 : '9'.toNat = 0x39 := rfl
  have hz : 'z'.toNat = 0x7A := rfl
  have hZ : 'Z'.toNat = 0x5A := rfl
  have hnone : digitValue? base c = none := by
    rw [digitValue?, if_neg (by omega), if_neg (by omega), if_neg (by omega)]
    rfl
  rw [hnone] at h
  cases h

theorem ascii_of_digits (h : ∀ c ∈ t, (digitValue? base c).isSome) : Text.Ascii t := by
  intro c hc
  obtain ⟨n, hn⟩ := Option.isSome_iff_exists.mp (h c hc)
  exact toNat_lt_of_digitValue? hn

/-- **What reads as a number has one byte a character.** -/
theorem ascii_of_read? (h : read? base bound t = some n) : Text.Ascii t := by
  rw [read?_iff_ok] at h
  unfold read at h
  split at h
  · cases h
  · cases h
  · exact List.forall_mem_cons.mpr ⟨by decide, ascii_of_digits (digits_of_readDigits h)⟩
  · exact ascii_of_digits (digits_of_readDigits h)

/-- **A number in the last characters is one in the last bytes**, and the other way round. -/
theorem read?_lastBytes {size : Nat} (hsize : size ≤ Text.byteSize t) :
    ((Text.cutAt? (Text.byteSize t - size) t).bind fun parts => read? base bound parts.2) =
      if t.length < size then none else read? base bound (t.drop (t.length - size)) := by
  refine Option.ext fun n => ?_
  rw [Option.bind_eq_some_iff]
  constructor
  · rintro ⟨⟨front, back⟩, hcut, hread⟩
    obtain ⟨rfl, hfront⟩ := Text.cutAt?_eq_some_iff.mp hcut
    have hascii : Text.byteSize back = back.length := (ascii_of_read? hread).byteSize_eq
    have hback : back.length = size := by
      rw [Text.byteSize_append, hascii] at hfront hsize
      omega
    have hdrop : (front ++ back).length - size = front.length := by
      rw [List.length_append, hback, Nat.add_sub_cancel]
    rw [if_neg (by rw [List.length_append]; omega), hdrop, List.drop_left]
    exact hread
  · intro h
    split at h
    · cases h
    next hlen =>
      have hfield : (t.drop (t.length - size)).length = size := by
        rw [List.length_drop]
        omega
      refine ⟨(t.take (t.length - size), t.drop (t.length - size)), ?_, h⟩
      refine Text.cutAt?_eq_some_iff.mpr ⟨List.take_append_drop _ t, ?_⟩
      have hwhole := congrArg Text.byteSize (List.take_append_drop (t.length - size) t)
      rw [Text.byteSize_append, (ascii_of_read? h).byteSize_eq, hfield] at hwhole
      omega

end Numeral

end BytecodeParity
