import BytecodeParity.Proofs.Json.Reading
import Mathlib.Data.List.TakeWhile
/-!
# Values without parts, read alone

What stands behind a value does not count for it. A reader that never looks beyond what it takes is
`Local`: whatever follows the text that it took, it takes that text again and gives the same. Strings
are read so (`local_string`). Of a number the end is only seen from the character behind it, so the
text of a whole number is its digits, and these are read alone (`number_alone`).

The results are **the JSON values of the texts that were taken**, where a string, a natural number or
null was read in a place for it (`parse_of_takes_text`, `parse_of_takes_nat64`,
`parse_of_takes_none`, `parse_of_takes_some_string`).
-/

namespace BytecodeParity.Json.Reader

variable {α β : Type} {r : Reader α} {f : α → Reader β} {t t' v : Text} {a : α} {b : β}

/-! ## Taking a text -/

/-- A reader gives something for a text when certain characters follow it. -/
def Takes (r : Reader α) (v : Text) (a : α) : Prop := ∃ rest, r (v ++ rest) = .ok (a, rest)

/-- Whatever a reader gives was taken as a text off the front. -/
theorem Advances.takes (hr : Advances r) (h : r t = .ok (a, t')) : ∃ v, t = v ++ t' ∧ Takes r v a := by
  obtain ⟨v, rfl⟩ := hr t a t' h
  exact ⟨v, rfl, t', h⟩

/-- What was read of a text decides what is read of it, whatever follows. -/
def Local (r : Reader α) : Prop :=
  ∀ t a t', r t = .ok (a, t') → ∃ v, t = v ++ t' ∧ ∀ rest, r (v ++ rest) = .ok (a, rest)

theorem Local.bind (hr : Local r) (hf : ∀ a, Local (f a)) : Local (r >>= f) := by
  intro t b t' h
  obtain ⟨a, u, hu, hb⟩ := bind_eq_ok.mp h
  obtain ⟨v, rfl, hv⟩ := hr t a u hu
  obtain ⟨w, rfl, hw⟩ := hf a u b t' hb
  refine ⟨v ++ w, by rw [List.append_assoc], fun rest => bind_eq_ok.mpr ⟨a, w ++ rest, ?_, hw rest⟩⟩
  rw [List.append_assoc]
  exact hv (w ++ rest)

theorem Local.pure : Local (pure a : Reader α) := by
  rintro t b t' ⟨⟩
  exact ⟨[], rfl, fun rest => rfl⟩

theorem Local.throw {e : Fault} : Local (throw e : Reader α) := by
  rintro t b t' ⟨⟩

/-- To take a character is local for a reader that refuses the end of the text. -/
theorem Local.next_bind {f : Option Char → Reader β} (hnone : ∀ t b t', f none t ≠ .ok (b, t'))
    (hsome : ∀ c, Local (f (some c))) : Local (next >>= f) := by
  intro t b t' h
  cases t with
  | nil => exact absurd h (hnone _ _ _)
  | cons c u =>
    obtain ⟨v, rfl, hv⟩ := hsome c u b t' h
    exact ⟨c :: v, rfl, hv⟩

/-- A local reader reads the text that it took alone. -/
theorem Local.alone (hr : Local r) (h : Takes r v a) : r v = .ok (a, []) := by
  obtain ⟨rest, h⟩ := h
  obtain ⟨w, hw, hlocal⟩ := hr _ _ _ h
  obtain rfl := List.append_cancel_right hw
  simpa using hlocal []

/-! ## Words and strings -/

/-- The text of a word is the word. -/
theorem word_eq_ok {w : List Char} {u : Unit} (h : word w t = .ok (u, t')) : t = w ++ t' := by
  induction w generalizing t with
  | nil =>
    obtain ⟨⟩ := h
    rfl
  | cons c w ih =>
    obtain ⟨d, s, hd, h⟩ := bind_eq_ok.mp h
    cases t with
    | nil =>
      obtain ⟨⟩ := hd
      cases h
    | cons d t =>
      obtain ⟨⟩ := hd
      simp only [List.head?_cons, List.tail_cons] at h
      split at h
      · next hc => rw [ih h, hc, List.cons_append]
      · cases h

theorem local_hexUnit : Local hexUnit := by
  intro t n t' h
  rw [hexUnit] at h
  split at h
  · cases h
  · next hsize =>
    split at h
    · next n hn =>
      split at h
      · next hlength =>
        cases h
        refine ⟨t.take 4, (List.take_append_drop 4 t).symm, fun rest => ?_⟩
        have htake : (t.take 4 ++ rest).take 4 = t.take 4 := by
          rw [List.take_append_of_le_length (Nat.le_of_eq hlength.symm), List.take_take, Nat.min_self]
        have hdrop : (t.take 4 ++ rest).drop 4 = rest := List.drop_left' hlength
        rw [hexUnit]
        simp only [htake, hdrop, if_neg hsize, hn, if_pos hlength]
      · cases h
    · cases h

theorem local_pairMark (c : Char) : Local (pairMark c) := by
  refine Local.next_bind (by rintro t b t' ⟨⟩) fun d => ?_
  dsimp only
  split
  · exact Local.pure
  · exact Local.throw

theorem local_codePoint : Local codePoint := by
  refine local_hexUnit.bind fun high => ?_
  split
  · exact Local.throw
  · split
    · exact Local.pure
    · refine (local_pairMark _).bind fun _ => (local_pairMark _).bind fun _ =>
        local_hexUnit.bind fun low => ?_
      split
      · exact Local.pure
      · exact Local.throw

theorem local_escape {codePoint : Reader Char} (h : Local codePoint) : Local (escape codePoint) := by
  refine Local.next_bind (by rintro t b t' ⟨⟩) fun c => ?_
  split
  · exact Local.throw
  · exact h
  all_goals first | exact Local.pure | (split; exact Local.pure; exact Local.throw)

theorem local_stringFrom {codePoint : Reader Char} (h : Local codePoint) (fuel : Nat)
    (read : List Char) : Local (stringFrom codePoint fuel read) := by
  induction fuel generalizing read with
  | zero => exact Local.throw
  | succ fuel ih =>
    refine Local.next_bind (by rintro t b t' ⟨⟩) fun c => ?_
    split
    · exact Local.throw
    · exact Local.pure
    · exact (local_escape h).bind fun c => ih (c :: read)
    · split
      · exact Local.throw
      · exact ih _

/-- One character of a string. -/
theorem stringFrom_cons {codePoint : Reader Char} (fuel : Nat) (read : List Char) (c : Char)
    (t : Text) :
    stringFrom codePoint (fuel + 1) read (c :: t) =
      if c = '"' then .ok (read.reverse, t)
      else if c = '\\' then (escape codePoint >>= fun c => stringFrom codePoint fuel (c :: read)) t
      else if c.toNat < 0x20 then .error .controlCharacter
      else stringFrom codePoint fuel (c :: read) t := by
  by_cases hquote : c = '"'
  · subst hquote
    rfl
  by_cases hescape : c = '\\'
  · subst hescape
    rfl
  rw [if_neg hquote, if_neg hescape, stringFrom]
  simp only [bind, StateT.bind, Except.bind, next, List.head?_cons, List.tail_cons]
  split_ifs <;> rfl

/-- The fuel of a string only has to exceed the characters left. -/
theorem stringFrom_of_length_lt {codePoint : Reader Char} (hcode : Advances codePoint)
    {fuel fuel' : Nat} {read s : List Char} (h : stringFrom codePoint fuel read t = .ok (s, t'))
    (hlt : t.length < fuel') : stringFrom codePoint fuel' read t = .ok (s, t') := by
  induction fuel generalizing fuel' read t with
  | zero => cases h
  | succ fuel ih =>
    obtain ⟨fuel', rfl⟩ : ∃ n, fuel' = n + 1 := ⟨fuel' - 1, by omega⟩
    cases t with
    | nil => cases h
    | cons c t =>
      rw [List.length_cons] at hlt
      rw [stringFrom_cons] at h ⊢
      split_ifs at h ⊢
      · exact h
      · obtain ⟨c, u, hc, h⟩ := bind_eq_ok.mp h
        have hu := ((advances_escape hcode) _ _ _ hc).length_le
        exact bind_eq_ok.mpr ⟨c, u, hc, ih h (by omega)⟩
      · exact ih h (by omega)

/-- The fuel of a string is as great as the text, which does not make its reading less local. -/
theorem local_remaining_bind {codePoint : Reader Char} {finish : Text → α} (h : Local codePoint)
    (hcode : Advances codePoint) :
    Local (do return finish (← stringFrom codePoint ((← remaining) + 1) [])) := by
  intro t a t' ha
  obtain ⟨n, u, hn, ha⟩ := bind_eq_ok.mp ha
  obtain ⟨⟩ := hn
  obtain ⟨read, u, hread, ha⟩ := bind_eq_ok.mp ha
  obtain ⟨⟩ := ha
  obtain ⟨v, rfl, hv⟩ := local_stringFrom h _ _ _ _ _ hread
  refine ⟨v, rfl, fun rest => bind_eq_ok.mpr ⟨_, _, rfl, bind_eq_ok.mpr ⟨read, rest, ?_, rfl⟩⟩⟩
  exact stringFrom_of_length_lt hcode (hv rest) (Nat.lt_succ_self _)

theorem local_string : Local string := local_remaining_bind local_codePoint advances_codePoint

/-! ## Behind blanks -/

/-- Characters that mean nothing. -/
def Blank (b : Text) : Prop := ∀ c ∈ b, isBlank c = true

/-- A reader that first passes over blanks goes on where the character that it saw stands. -/
theorem of_peekSolid_bind {f : Option Char → Reader β} (h : (peekSolid >>= f) t = .ok (b, t')) :
    ∃ s c u, Blank s ∧ t = s ++ u ∧ u.head? = c ∧ f c u = .ok (b, t') :=
  ⟨t.takeWhile isBlank, _, t.dropWhile isBlank,
    fun c hc => List.all_eq_true.mp List.all_takeWhile c hc,
    List.takeWhile_append_dropWhile.symm, rfl, h⟩

/-- A character behind blanks that is none itself is shown. -/
theorem peekSolid_eq {b u : Text} {c : Char} (hb : Blank b) (hc : isBlank c = false) :
    peekSolid (b ++ c :: u) = .ok (some c, c :: u) := by
  rw [peekSolid, List.dropWhile_append_of_pos hb, List.dropWhile_cons_of_neg (by simp [hc])]
  rfl

/-- A value without parts behind blanks. -/
theorem parse_of_scalar {b u : Text} {c : Char} {j : Json} (hb : Blank b)
    (hc : isBlank c = false) (hlist : c ≠ '[') (hobject : c ≠ '\x7b')
    (h : scalar (c :: u) = .ok (j, [])) : parse (String.ofList (b ++ c :: u)) = .ok j := by
  have hvalue : value depthLimit (b ++ c :: u) = .ok (j, []) := by
    rw [show depthLimit = 126 + 1 from rfl, value]
    refine bind_eq_ok.mpr ⟨some c, c :: u, peekSolid_eq hb hc, ?_⟩
    generalize ho : some c = o
    split
    · exact absurd (Option.some.inj ho) hlist
    · exact absurd (Option.some.inj ho) hobject
    · exact h
  rw [parse, String.toList_ofList, whole, hvalue]
  rfl

/-! ## Whole numbers -/

theorem gives_missingDigit {P : α → Prop} : Gives (missingDigit : Reader α) P :=
  Gives.bind fun c => by split <;> exact Gives.throw

theorem gives_real (negative : Bool) (n : Nat) (e : Int) :
    Gives (real negative n e) fun x => ∀ k, x ≠ .integer k := by
  rw [real]
  split
  · exact Gives.pure fun k => Number.noConfusion
  · exact Gives.throw

theorem gives_exponentPart (negative : Bool) (n : Nat) (shift : Int) :
    Gives (exponentPart negative n shift) fun x => ∀ k, x ≠ .integer k := by
  rw [exponentPart]
  refine Gives.bind fun sign => ?_
  extract_lets rest
  have hrest : ∀ u, Gives (rest u) fun x => ∀ k, x ≠ .integer k := by
    intro u
    refine Gives.bind fun ds => ?_
    split
    · exact gives_missingDigit
    · dsimp only
      split
      · split
        · exact Gives.throw
        · exact Gives.pure fun k => Number.noConfusion
      · exact gives_real negative n _
  split
  · exact Gives.bind hrest
  · exact hrest ()

/-- Digits that make a whole number. -/
structure WholeDigits (negative : Bool) (ds : Text) (k : Int) : Prop where
  some_digit : ds ≠ []
  no_leading_zero : ∀ d rest, ds ≠ '0' :: d :: rest
  fits : (appendDigits 0 ds).2 = 0
  value : integer negative (appendDigits 0 ds).1 = .integer k

theorem wholeDigits_of_unsigned {negative : Bool} {k : Int}
    (h : unsigned negative t = .ok (.integer k, t')) :
    WholeDigits negative (t.takeWhile isDigit) k ∧ t' = t.dropWhile isDigit := by
  obtain ⟨ds, u, hds, h⟩ := bind_eq_ok.mp h
  obtain ⟨⟩ := hds
  generalize t.takeWhile isDigit = ds at h
  split at h
  · exact absurd rfl (gives_missingDigit (P := fun x => x ≠ .integer k) _ _ _ h)
  · cases h
  · next hne hzero =>
    rcases happ : appendDigits 0 ds with ⟨n, skipped⟩
    rw [happ] at h
    obtain ⟨mark, u, hmark, h⟩ := bind_eq_ok.mp h
    obtain ⟨⟩ := hmark
    split at h
    · -- Whatever has a fraction is real.
      obtain ⟨_, u, -, h⟩ := bind_eq_ok.mp h
      obtain ⟨fraction, u, -, h⟩ := bind_eq_ok.mp h
      split at h
      · exact absurd rfl (gives_missingDigit (P := fun x => x ≠ .integer k) _ _ _ h)
      · obtain ⟨mark, u, -, h⟩ := bind_eq_ok.mp h
        split at h
        · obtain ⟨_, u, -, h⟩ := bind_eq_ok.mp h
          exact absurd rfl (gives_exponentPart _ _ _ _ _ _ h k)
        · exact absurd rfl (gives_real _ _ _ _ _ _ h k)
    · split at h
      · obtain ⟨_, u, -, h⟩ := bind_eq_ok.mp h
        exact absurd rfl (gives_exponentPart _ _ _ _ _ _ h k)
      · split at h
        · next hfits =>
          obtain ⟨hvalue, rfl⟩ := Prod.mk.inj (Except.ok.inj h)
          exact ⟨⟨hne, hzero, by rw [happ]; exact hfits, by rw [happ]; exact hvalue⟩, rfl⟩
        · exact absurd rfl (gives_real _ _ _ _ _ _ h k)

/-- A whole number ends with its digits. -/
theorem unsigned_of_wholeDigits {negative : Bool} {ds : Text} {k : Int}
    (h : WholeDigits negative ds k) (hds : ∀ c ∈ ds, isDigit c) :
    unsigned negative ds = .ok (.integer k, []) := by
  have hdigits : digits ds = .ok (ds, []) := by
    rw [digits, List.takeWhile_eq_self_iff.mpr hds, List.dropWhile_eq_nil_iff.mpr hds]
  refine bind_eq_ok.mpr ⟨_, _, hdigits, ?_⟩
  split
  · exact absurd rfl h.some_digit
  · exact absurd rfl (h.no_leading_zero _ _)
  · have hfits := h.fits
    have hvalue := h.value
    rcases happ : appendDigits 0 ds with ⟨n, skipped⟩
    rw [happ] at hfits hvalue
    dsimp only at hfits hvalue ⊢
    refine bind_eq_ok.mpr ⟨none, [], rfl, ?_⟩
    rw [if_neg (by simp), if_neg (by decide), if_pos hfits, hvalue]
    rfl

/-- The text of a whole number, read alone, is that number. -/
theorem number_alone {k : Int} (h : number t = .ok (.integer k, t')) :
    ∃ v, t = v ++ t' ∧ number v = .ok (.integer k, []) := by
  obtain ⟨c, u, hc, h⟩ := bind_eq_ok.mp h
  obtain ⟨hhead, rfl⟩ := Prod.mk.inj (Except.ok.inj hc)
  split at h
  · obtain ⟨t, rfl⟩ := List.head?_eq_some_iff.mp hhead
    obtain ⟨_, u, hu, h⟩ := bind_eq_ok.mp h
    obtain ⟨⟩ := hu
    obtain ⟨hds, rfl⟩ := wholeDigits_of_unsigned h
    refine ⟨'-' :: t.takeWhile isDigit, by simp, ?_⟩
    exact bind_eq_ok.mpr ⟨_, _, rfl, bind_eq_ok.mpr ⟨_, _, rfl,
      unsigned_of_wholeDigits hds fun c hc => List.all_eq_true.mp List.all_takeWhile c hc⟩⟩
  · obtain ⟨hds, rfl⟩ := wholeDigits_of_unsigned h
    have hdigits : ∀ c ∈ t.takeWhile isDigit, isDigit c :=
      fun c hc => List.all_eq_true.mp List.all_takeWhile c hc
    refine ⟨t.takeWhile isDigit, by simp, ?_⟩
    refine bind_eq_ok.mpr ⟨_, _, rfl, ?_⟩
    generalize hminus : (t.takeWhile isDigit).head? = first
    split
    · have := hdigits '-' (List.mem_of_mem_head? hminus)
      exact absurd this (by decide)
    · exact unsigned_of_wholeDigits hds hdigits

theorem ne_of_number {c d : Char} (hc : c = '-' || isDigit c)
    (hd : (d = '-' || isDigit d) = false) : c ≠ d := by
  rintro rfl
  exact absurd hc (by simp [hd])

/-- No number begins with a blank. -/
theorem isBlank_of_number {c : Char} (hc : c = '-' || isDigit c) : isBlank c = false := by
  have hspace : c ≠ ' ' := ne_of_number hc (by decide)
  have hline : c ≠ '\n' := ne_of_number hc (by decide)
  have htab : c ≠ '\t' := ne_of_number hc (by decide)
  have hreturn : c ≠ '\r' := ne_of_number hc (by decide)
  simp [isBlank, hspace, hline, htab, hreturn]

/-- A number among the values without parts. -/
theorem scalar_of_number {c : Char} {u : Text} {x : Number} (hc : c = '-' || isDigit c)
    (h : number (c :: u) = .ok (x, t')) : scalar (c :: u) = .ok (.number x, t') := by
  refine bind_eq_ok.mpr ⟨some c, c :: u, rfl, ?_⟩
  generalize hd : some c = d
  split <;> cases hd
  -- The characters that open words and strings open no number.
  iterate 4 exact absurd hc (by decide)
  rw [if_pos hc]
  exact bind_eq_ok.mpr ⟨x, t', h, rfl⟩

/-! ## The values of leaves -/

/-- A string behind blanks. -/
theorem parse_of_string {b q : Text} {s : String} (hb : Blank b) (h : Takes string q s) :
    parse (String.ofList (b ++ '"' :: q)) = .ok (.string s) :=
  parse_of_scalar hb (by decide) (by decide) (by decide)
    (bind_eq_ok.mpr ⟨_, _, rfl, bind_eq_ok.mpr ⟨_, _, rfl,
      bind_eq_ok.mpr ⟨s, [], local_string.alone h, rfl⟩⟩⟩)

/-- Where a string was read, its text is a JSON string. -/
theorem parse_of_takes_text {expected s : String} (h : Takes (text expected) v s) :
    parse (String.ofList v) = .ok (.string s) := by
  obtain ⟨rest, h⟩ := h
  obtain ⟨b, c, u, hb, hv, hhead, h⟩ := of_peekSolid_bind h
  split at h
  · obtain ⟨u, rfl⟩ := List.head?_eq_some_iff.mp hhead
    obtain ⟨_, w, hw, h⟩ := bind_eq_ok.mp h
    obtain ⟨⟩ := hw
    obtain ⟨q, hu, hq⟩ := advances_string.takes h
    rw [List.tail_cons] at hu
    obtain rfl : v = b ++ '"' :: q := List.append_cancel_right (by simpa [hu] using hv)
    exact parse_of_string hb hq
  · exact absurd h (unexpected_ne_ok expected)

/-- Only behind a quote is a string read among the values without parts. -/
theorem string_of_scalar {s : String} (h : scalar t = .ok (.string s, t')) :
    ∃ u, t = '"' :: u ∧ string u = .ok (s, t') := by
  obtain ⟨c, u, hc, h⟩ := bind_eq_ok.mp h
  obtain ⟨hhead, rfl⟩ := Prod.mk.inj (Except.ok.inj hc)
  split at h
  · obtain ⟨_, u, -, h⟩ := bind_eq_ok.mp h
    obtain ⟨_, u, -, h⟩ := bind_eq_ok.mp h
    cases h
  · obtain ⟨_, u, -, h⟩ := bind_eq_ok.mp h
    obtain ⟨_, u, -, h⟩ := bind_eq_ok.mp h
    cases h
  · obtain ⟨_, u, -, h⟩ := bind_eq_ok.mp h
    obtain ⟨_, u, -, h⟩ := bind_eq_ok.mp h
    cases h
  · obtain ⟨t, rfl⟩ := List.head?_eq_some_iff.mp hhead
    obtain ⟨_, u, hu, h⟩ := bind_eq_ok.mp h
    obtain ⟨⟩ := hu
    obtain ⟨s, u, hs, h⟩ := bind_eq_ok.mp h
    obtain ⟨⟩ := h
    exact ⟨t, rfl, hs⟩
  · split at h
    · obtain ⟨x, u, -, h⟩ := bind_eq_ok.mp h
      cases h
    · cases h
  · cases h

/-- A string that was read as a value stands behind blanks and a quote. -/
theorem string_of_value {depth : Nat} {s : String} (h : value depth t = .ok (.string s, t')) :
    ∃ b u, Blank b ∧ t = b ++ '"' :: u ∧ string u = .ok (s, t') := by
  cases depth with
  | zero =>
    obtain ⟨b, c, u, hb, ht, -, h⟩ := of_peekSolid_bind h
    split at h
    · cases h
    · cases h
    · obtain ⟨w, rfl, hw⟩ := string_of_scalar h
      exact ⟨b, w, hb, ht, hw⟩
  | succ depth =>
    obtain ⟨b, c, u, hb, ht, -, h⟩ := of_peekSolid_bind h
    split at h
    · obtain ⟨_, w, -, h⟩ := bind_eq_ok.mp h
      obtain ⟨items, w, -, h⟩ := bind_eq_ok.mp h
      cases h
    · obtain ⟨_, w, -, h⟩ := bind_eq_ok.mp h
      obtain ⟨members, w, -, h⟩ := bind_eq_ok.mp h
      cases h
    · obtain ⟨w, rfl, hw⟩ := string_of_scalar h
      exact ⟨b, w, hb, ht, hw⟩

/-- Where a natural number was read, its text is that number. -/
theorem parse_of_takes_nat64 {n : Nat} (h : Takes nat64 v n) :
    parse (String.ofList v) = .ok (.number (.integer n)) := by
  obtain ⟨rest, h⟩ := h
  obtain ⟨b, c, u, hb, hv, hhead, h⟩ := of_peekSolid_bind h
  split at h
  · next c =>
    split at h
    · next hdigit =>
      obtain ⟨u, rfl⟩ := List.head?_eq_some_iff.mp hhead
      obtain ⟨x, w, hx, h⟩ := bind_eq_ok.mp h
      split at h
      · next k =>
        split at h
        · next hk =>
          obtain ⟨rfl, rfl⟩ := Prod.mk.inj (Except.ok.inj h)
          obtain ⟨q, hq, hnumber⟩ := number_alone hx
          obtain ⟨q, rfl⟩ : ∃ cs, q = c :: cs := by
            cases q with
            | nil => cases hnumber
            | cons d cs => exact ⟨cs, by rw [(List.cons.inj hq).1]⟩
          obtain rfl : v = b ++ c :: q := List.append_cancel_right (by simpa [hq] using hv)
          rw [Int.toNat_of_nonneg hk]
          exact parse_of_scalar hb (isBlank_of_number hdigit) (ne_of_number hdigit (by decide))
            (ne_of_number hdigit (by decide)) (scalar_of_number hdigit hnumber)
        · cases h
      · cases h
    · exact absurd h (unexpected_ne_ok _)
  · exact absurd h (unexpected_ne_ok _)

/-- Where null was read in place of a value, its text is null. -/
theorem parse_of_takes_none {r : Reader α} (h : Takes (optional r) v none) :
    parse (String.ofList v) = .ok .null := by
  obtain ⟨rest, h⟩ := h
  obtain ⟨b, c, u, hb, hv, hhead, h⟩ := of_peekSolid_bind h
  split at h
  · obtain ⟨u, rfl⟩ := List.head?_eq_some_iff.mp hhead
    obtain ⟨_, w, hw, h⟩ := bind_eq_ok.mp h
    obtain ⟨⟩ := hw
    obtain ⟨_, w, hw, h⟩ := bind_eq_ok.mp h
    obtain ⟨⟩ := h
    obtain rfl := word_eq_ok hw
    obtain rfl : v = b ++ ['n', 'u', 'l', 'l'] := List.append_cancel_right (by simpa using hv)
    exact parse_of_scalar hb (by decide) (by decide) (by decide) rfl
  · obtain ⟨a, w, -, h⟩ := bind_eq_ok.mp h
    cases h

/-- Where a string was read in place of a value, its text is a JSON string. -/
theorem parse_of_takes_some_string {depth : Nat} {s : String}
    (h : Takes (optional (value depth)) v (some (.string s))) :
    parse (String.ofList v) = .ok (.string s) := by
  obtain ⟨rest, h⟩ := h
  obtain ⟨b, c, u, hb, hv, hhead, h⟩ := of_peekSolid_bind h
  split at h
  · obtain ⟨_, w, -, h⟩ := bind_eq_ok.mp h
    obtain ⟨_, w, -, h⟩ := bind_eq_ok.mp h
    cases h
  · obtain ⟨j, w, hj, h⟩ := bind_eq_ok.mp h
    obtain ⟨⟩ := h
    obtain ⟨b', w, hb', hu, hw⟩ := string_of_value hj
    obtain ⟨q, hw', hq⟩ := advances_string.takes hw
    obtain rfl : v = b ++ b' ++ '"' :: q := List.append_cancel_right (by simpa [hu, hw'] using hv)
    exact parse_of_string (fun c hc => (List.mem_append.mp hc).elim (hb c) (hb' c)) hq

end BytecodeParity.Json.Reader
