import BytecodeParity.Code.Pair
import BytecodeParity.Proofs.Hex.Digits
import BytecodeParity.Proofs.Text.Scan
/-!
# The passes before masking, on digits

Two passes prepare a code: `zeroAbsentFeatures` writes zeros over addresses, `stripMetadata` cuts
the trailer off. Both are defined on any text, mark included, and for any text they have to look
at bytes, at character boundaries and at the case of the mark.

On a code whose body is digits both are functions of the body alone: `stripMetadata_of_digits` says
the cut is a number of characters off the end, `body_zeroAbsentFeatures` that zeroing is the same
fold over the small-letter body. What every later pass needs to know of the two is their common
consequence, that whole bytes stay whole bytes (`wholeBytes_stripMetadata`,
`wholeBytes_zeroAbsentFeatures`).
-/

namespace BytecodeParity

open Hex

namespace Text

/-! ## Cutting digits -/

theorem dropBytes?_of_digits {t : Text} (h : Digits t) (n : Nat) :
    dropBytes? n t = if n ≤ t.length then some (t.drop n) else none := by
  induction t generalizing n with
  | nil =>
    cases n with
    | zero => rfl
    | succ n => rfl
  | cons c t ih =>
    cases n with
    | zero => rfl
    | succ n =>
      have hc : c.utf8Size = 1 := utf8Size_of_digit (h c List.mem_cons_self)
      rw [dropBytes?, hc, if_pos (by omega), Nat.add_sub_cancel,
        ih fun d hd => h d (List.mem_cons_of_mem c hd)]
      simp only [List.length_cons, Nat.add_le_add_iff_right, List.drop_succ_cons]

theorem dropLastBytes?_of_digits {t : Text} (h : Digits t) (n : Nat) :
    dropLastBytes? n t = if n ≤ t.length then some (t.take (t.length - n)) else none := by
  have hr : Digits t.reverse := fun c hc => h c (List.mem_reverse.mp hc)
  rw [dropLastBytes?, dropBytes?_of_digits hr, List.length_reverse]
  split
  · rw [Option.map_some, List.drop_reverse, List.reverse_reverse]
  · rfl

/-! ## Replacing behind a mark -/

/-- No value stands across a mark, so replacing leaves the mark alone. -/
theorem replaceAll_marked {v new t : Text} (hv : Value v) :
    replaceAll v new ('0' :: 'x' :: t) = '0' :: 'x' :: replaceAll v new t := by
  obtain ⟨hdigits, hsize⟩ := hv
  cases v with
  | nil => exact absurd hsize (by simp)
  | cons a v =>
    cases v with
    | nil => exact absurd hsize (by simp)
    | cons b v =>
      -- Neither of the first two digits is the letter of the mark, so no copy of the value begins
      -- inside the mark.
      have ha : a ≠ 'x' := ne_of_digit (hdigits a (by simp)) (by decide)
      have hb : b ≠ 'x' := ne_of_digit (hdigits b (by simp)) (by decide)
      simp [replaceAll, replaceFrom, ha, hb]

end Text

namespace Code

/-! ## The trailer -/

/-- How many characters of a body of digits its trailer takes: none if no plausible length is
declared, or if the trailer would leave no code. -/
def cutSize (body : Text) : Nat :=
  match trailerSize? body with
  | some n => if n < body.length then n else 0
  | none => 0

theorem even_of_trailerSize? {body : Text} {n : Nat} (h : trailerSize? body = some n) :
    n % 2 = 0 := by
  unfold trailerSize? at h
  split at h
  · cases h
  · simp only [Option.bind_eq_bind, Option.bind_eq_some_iff] at h
    obtain ⟨length, -, hn⟩ := h
    split at hn
    · simp only [Option.some.injEq, lengthFieldSize] at hn
      omega
    · cases hn

theorem even_cutSize (body : Text) : cutSize body % 2 = 0 := by
  unfold cutSize
  split
  next h =>
    split
    · exact even_of_trailerSize? h
    · rfl
  · rfl

/-- **On digits, stripping is a cut of the body.** The mark stays. -/
theorem stripMetadata_of_digits {code : Text} (h : Digits (body code)) :
    stripMetadata code =
      (splitMark code).1 ++ (body code).take ((body code).length - cutSize (body code)) := by
  have hbody : (splitMark code).2 = body code := rfl
  have hwhole : (splitMark code).1 ++ body code = code := mark_append_body code
  unfold stripMetadata cutSize
  simp only [hbody]
  cases ht : trailerSize? (body code) with
  | none => simp [hwhole]
  | some n =>
    rw [Option.bind_some, Text.dropLastBytes?_of_digits h]
    dsimp only
    by_cases hlt : n < (body code).length
    · -- Something is left in front of the trailer.
      rw [if_pos (by omega), if_pos hlt]
      cases hkept : (body code).take ((body code).length - n) with
      | nil =>
        have := congrArg List.length hkept
        simp only [List.length_take, List.length_nil] at this
        omega
      | cons c kept => rfl
    · -- Nothing would be left, or the trailer is longer than the body.
      rw [if_neg hlt, Nat.sub_zero, List.take_length, hwhole]
      by_cases hle : n ≤ (body code).length
      · obtain rfl : n = (body code).length := by omega
        rw [if_pos hle, Nat.sub_self, List.take_zero]
      · rw [if_neg hle]

theorem body_stripMetadata {code : Text} (h : Digits (body code)) :
    body (stripMetadata code) =
      (body code).take ((body code).length - cutSize (body code)) := by
  rw [stripMetadata_of_digits h]
  exact (h.sublist (List.take_sublist _ _)).body_mark_append code

theorem wholeBytes_stripMetadata {code : Text} (h : WholeBytes (body code)) :
    WholeBytes (body (stripMetadata code)) := by
  rw [body_stripMetadata h.digits]
  refine ⟨h.digits.sublist (List.take_sublist _ _), ?_⟩
  have hcut := even_cutSize (body code)
  have heven := h.even
  rw [List.length_take]
  omega

/-! ## Absent features -/

/-- The addresses zeroed for the contract of a name. -/
def absentAddresses (name : String) : List Text :=
  ((Contract.ofName? name).map Contract.absentAddresses).getD []

theorem zeroAbsentFeatures_eq (name : String) (code : Text) :
    zeroAbsentFeatures name code =
      if absentAddresses name = [] then code
      else (absentAddresses name).foldl zeroAddress (Text.lower code) := by
  unfold zeroAbsentFeatures absentAddresses
  cases (Contract.ofName? name).map Contract.absentAddresses with
  | none => rfl
  | some addresses =>
    cases addresses with
    | nil => rfl
    | cons a addresses => rfl

/-- A name for which something is zeroed is that of a canonical contract. -/
theorem absentAddresses_cases (name : String) :
    absentAddresses name = [] ∨
      ∃ c : Contract, c.name = name ∧ absentAddresses name = c.absentAddresses := by
  unfold absentAddresses
  cases hc : Contract.ofName? name with
  | none => exact Or.inl rfl
  | some c =>
    have hname := List.find?_some hc
    exact Or.inr ⟨c, eq_of_beq hname, rfl⟩

/-- What holds of the addresses of every contract holds of those of every name. -/
theorem forall_absentAddresses {P : List Text → Prop} (hnil : P [])
    (h : ∀ c : Contract, P c.absentAddresses) (name : String) : P (absentAddresses name) := by
  rcases absentAddresses_cases name with hnone | ⟨c, -, hc⟩
  · rw [hnone]
    exact hnil
  · rw [hc]
    exact h c

theorem value_of_mem_absentAddresses {name : String} {a : Text}
    (h : a ∈ absentAddresses name) : Value a := by
  have hall : ∀ a ∈ absentAddresses name, Value a := by
    apply forall_absentAddresses (P := fun l => ∀ a ∈ l, Value a)
    · exact fun a ha => nomatch ha
    · intro c
      cases c <;> decide
  exact hall a h

/-- Zeroing one address keeps digits digits, and as many. -/
theorem zeroAddress_digits {a t : Text} (ha : Value a) (ht : Digits t) :
    Digits (zeroAddress t a) ∧ (zeroAddress t a).length = t.length := by
  rw [zeroAddress, Text.replaceAll_eq_paint ha.ne_nil]
  refine ⟨fun c hc => ?_, Text.length_paint⟩
  obtain ⟨i, hi⟩ := List.getElem?_of_mem hc
  rw [Text.getElem?_paint, Option.map_eq_some_iff] at hi
  obtain ⟨d, hd, rfl⟩ := hi
  split
  · decide
  · exact ht d (List.mem_of_getElem? hd)

theorem zeroAddresses_digits {addresses : List Text} (ha : ∀ a ∈ addresses, Value a) {t : Text}
    (ht : Digits t) :
    Digits (addresses.foldl zeroAddress t) ∧
      (addresses.foldl zeroAddress t).length = t.length := by
  induction addresses generalizing t with
  | nil => exact ⟨ht, rfl⟩
  | cons a addresses ih =>
    obtain ⟨hd, hl⟩ := zeroAddress_digits (ha a List.mem_cons_self) ht
    obtain ⟨hds, hls⟩ := ih (fun b hb => ha b (List.mem_cons_of_mem a hb)) hd
    exact ⟨hds, hls.trans hl⟩

theorem zeroAddresses_marked {addresses : List Text} (ha : ∀ a ∈ addresses, Value a) (t : Text) :
    addresses.foldl zeroAddress ('0' :: 'x' :: t) =
      '0' :: 'x' :: addresses.foldl zeroAddress t := by
  induction addresses generalizing t with
  | nil => rfl
  | cons a addresses ih =>
    rw [List.foldl_cons, List.foldl_cons, zeroAddress,
      Text.replaceAll_marked (ha a List.mem_cons_self),
      ih fun b hb => ha b (List.mem_cons_of_mem a hb)]
    rfl

/-- **Zeroing acts on the body.** A mark comes out small whichever it was. -/
theorem zeroAbsentFeatures_eq_append (name : String) (code : Text) :
    zeroAbsentFeatures name code =
      if absentAddresses name = [] then code
      else Text.lower (splitMark code).1 ++
        (absentAddresses name).foldl zeroAddress (Text.lower (body code)) := by
  have ha : ∀ a ∈ absentAddresses name, Value a := fun a => value_of_mem_absentAddresses
  rw [zeroAbsentFeatures_eq]
  split
  · rfl
  · have hcode : Text.lower code =
        Text.lower (splitMark code).1 ++ Text.lower (body code) := by
      rw [← Text.lower_append, mark_append_body]
    rw [hcode]
    rcases mark_cases code with hm | hm | hm <;> rw [hm]
    · rfl
    · exact zeroAddresses_marked ha _
    · exact zeroAddresses_marked ha _

theorem body_zeroAbsentFeatures {name : String} {code : Text} (h : Digits (body code)) :
    body (zeroAbsentFeatures name code) =
      if absentAddresses name = [] then body code
      else (absentAddresses name).foldl zeroAddress (Text.lower (body code)) := by
  have ha : ∀ a ∈ absentAddresses name, Value a := fun a => value_of_mem_absentAddresses
  have hdigits := (zeroAddresses_digits ha h.lower).1
  rw [zeroAbsentFeatures_eq_append]
  split
  · rfl
  · rcases mark_cases code with hm | hm | hm <;> rw [hm]
    · exact hdigits.body_eq
    · rfl
    · rfl

theorem wholeBytes_zeroAbsentFeatures {name : String} {code : Text}
    (h : WholeBytes (body code)) : WholeBytes (body (zeroAbsentFeatures name code)) := by
  rw [body_zeroAbsentFeatures h.digits]
  split
  · exact h
  · have ha : ∀ a ∈ absentAddresses name, Value a := fun a => value_of_mem_absentAddresses
    obtain ⟨hd, hl⟩ := zeroAddresses_digits ha h.digits.lower
    exact ⟨hd, by rw [hl, length_lower]; exact h.even⟩

end Code

end BytecodeParity
