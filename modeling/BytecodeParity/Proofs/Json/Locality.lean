import BytecodeParity.Proofs.Json.Record
/-!
# What stands behind a value

Of what stands behind a number only the first character is looked at (`Firm`), and it does not
matter either unless numbers are written with it (`Apart`). Values are `Delimited`: **whatever
blanks are in front of a value and whatever stands apart behind it, the same is read**. All readers
of values are (`delimited_value`, `delimited_text`, `delimited_nat64`), and so are those made from
them for null or a value and for objects of members that are alike (`Delimited.optional`,
`delimited_map`).
-/

namespace BytecodeParity.Json.Reader

variable {α β : Type} {r : Reader α} {f : α → Reader β} {t t' v rest : Text} {a : α} {b : β}

/-! ## One character ahead -/

/-- Numbers are written with this character. -/
def inNumber (c : Char) : Bool :=
  isDigit c || c == '.' || c == 'e' || c == 'E' || c == '+' || c == '-'

/-- A text with which no number can go on. -/
def Apart (rest : Text) : Prop := ∀ c ∈ rest.head?, inNumber c = false

theorem apart_nil : Apart [] := by simp [Apart]

theorem apart_cons {c : Char} : Apart (c :: t) ↔ inNumber c = false := by simp [Apart]

/-- What was read of a text is read again where the text that follows begins alike or stands
apart. -/
def Firm (r : Reader α) : Prop :=
  ∀ t a t', r t = .ok (a, t') →
    ∃ v, t = v ++ t' ∧ ∀ rest, rest.head? = t'.head? ∨ Apart rest → r (v ++ rest) = .ok (a, rest)

theorem Local.firm (h : Local r) : Firm r := by
  intro t a t' ha
  obtain ⟨v, hv, hlocal⟩ := h t a t' ha
  exact ⟨v, hv, fun rest _ => hlocal rest⟩

theorem Firm.bind (hr : Firm r) (hf : ∀ a, Firm (f a)) : Firm (r >>= f) := by
  intro t b t' h
  obtain ⟨a, u, hu, hb⟩ := bind_eq_ok.mp h
  obtain ⟨v, rfl, hv⟩ := hr t a u hu
  obtain ⟨w, rfl, hw⟩ := hf a u b t' hb
  refine ⟨v ++ w, by rw [List.append_assoc], fun rest hrest => ?_⟩
  refine bind_eq_ok.mpr ⟨a, w ++ rest, ?_, hw rest hrest⟩
  rw [List.append_assoc]
  apply hv
  -- Behind what the first reader took stands what the second one took, if that was anything.
  cases w with
  | nil => exact hrest
  | cons c w => exact .inl rfl

theorem Firm.pure : Firm (pure a : Reader α) := Local.pure.firm

theorem Firm.throw {e : Fault} : Firm (throw e : Reader α) := Local.throw.firm

/-- To look at a character is firm if only characters of numbers count, and those are taken. -/
theorem Firm.peek_bind {f : Option Char → Reader β} (counts : Char → Prop)
    (hnumber : ∀ c, counts c → inNumber c = true)
    (htaken : ∀ c, counts c → ∃ r, f (some c) = (drop >>= fun _ => r) ∧ Firm r)
    (hother : ∀ o : Option Char, (∀ c ∈ o, ¬ counts c) → f o = f none) (hnone : Firm (f none)) :
    Firm (peek >>= f) := by
  intro t b t' h
  change f t.head? t = .ok (b, t') at h
  -- If the first character does not count, neither does what stands apart in its place.
  by_cases hhead : ∀ c ∈ t.head?, ¬ counts c
  · rw [hother _ hhead] at h
    obtain ⟨v, rfl, hv⟩ := hnone t b t' h
    refine ⟨v, rfl, fun rest hrest => ?_⟩
    have hhead' : ∀ c ∈ (v ++ rest).head?, ¬ counts c := by
      cases v with
      | cons c v => exact hhead
      | nil =>
        rcases hrest with hsame | hapart
        · rw [List.nil_append, hsame]
          exact hhead
        · intro c hc hcounts
          exact absurd (hnumber c hcounts) (by simp [hapart c hc])
    change f (v ++ rest).head? (v ++ rest) = .ok (b, rest)
    rw [hother _ hhead']
    exact hv rest hrest
  · obtain ⟨c, hc, hcounts⟩ : ∃ c ∈ t.head?, counts c := by simpa using hhead
    obtain ⟨u, rfl⟩ := List.head?_eq_some_iff.mp hc
    obtain ⟨r, hf, hr⟩ := htaken c hcounts
    rw [List.head?_cons, hf] at h
    obtain ⟨v, rfl, hv⟩ := hr u b t' h
    refine ⟨c :: v, rfl, fun rest hrest => ?_⟩
    change f (some c) (c :: (v ++ rest)) = .ok (b, rest)
    rw [hf]
    exact hv rest hrest

/-! ## Numbers -/

theorem Firm.peek_eq_bind {f : Option Char → Reader β} {c : Char} (hc : inNumber c = true)
    (htaken : ∃ r, f (some c) = (drop >>= fun _ => r) ∧ Firm r)
    (hother : ∀ o, o ≠ some c → f o = f none) (hnone : Firm (f none)) : Firm (peek >>= f) := by
  refine Firm.peek_bind (· = c) ?_ ?_ (fun o ho => hother o ?_) hnone
  · rintro d rfl
    exact hc
  · rintro d rfl
    exact htaken
  · rintro rfl
    exact ho c rfl rfl

theorem firm_digits : Firm digits := by
  rintro t ds t' ⟨⟩
  have hds : ∀ c ∈ t.takeWhile isDigit, isDigit c = true := by
    intro c hc
    exact List.all_eq_true.mp List.all_takeWhile c hc
  refine ⟨t.takeWhile isDigit, List.takeWhile_append_dropWhile.symm, fun rest hrest => ?_⟩
  have hend : rest.takeWhile isDigit = [] ∧ rest.dropWhile isDigit = rest := by
    cases rest with
    | nil => simp
    | cons c rest =>
      have hc : isDigit c = false := by
        rcases hrest with hhead | hapart
        · have hdrop := List.head?_dropWhile_not isDigit t
          rwa [← hhead] at hdrop
        · have hnumber := apart_cons.mp hapart
          simp only [inNumber, Bool.or_eq_false_iff] at hnumber
          exact hnumber.1.1.1.1.1
      simp [hc]
  rw [digits, List.takeWhile_append_of_pos hds, List.dropWhile_append_of_pos hds, hend.1, hend.2,
    List.append_nil]

theorem firm_missingDigit : Firm (missingDigit : Reader α) := by
  intro t a t' h
  exact (gives_missingDigit (P := fun _ => False) t a t' h).elim

theorem firm_real (negative : Bool) (n : Nat) (e : Int) : Firm (real negative n e) := by
  rw [real]
  split
  · exact Firm.pure
  · exact Firm.throw

/-- A sign may stand in front. -/
theorem Firm.sign_bind {f : Option Char → Reader β}
    (htaken : ∀ c, c = '+' ∨ c = '-' → ∃ r, f (some c) = (drop >>= fun _ => r) ∧ Firm r)
    (hother : ∀ o, o ≠ some '+' → o ≠ some '-' → f o = f none) (hnone : Firm (f none)) :
    Firm (peek >>= f) := by
  refine Firm.peek_bind (fun c => c = '+' ∨ c = '-') (by rintro c (rfl | rfl) <;> rfl) htaken
    (fun o ho => ?_) hnone
  exact hother o (by rintro rfl; simp at ho) (by rintro rfl; simp at ho)

theorem inNumber_of_marksExponent {c : Char} (h : marksExponent (some c) = true) :
    inNumber c = true := by
  simp only [marksExponent, Bool.or_eq_true, beq_iff_eq, Option.some.injEq] at h
  rcases h with rfl | rfl <;> rfl

/-- The mark of an exponent may follow. -/
theorem Firm.exponent_bind {f : Option Char → Reader β}
    (htaken : ∀ c, marksExponent (some c) = true → ∃ r, f (some c) = (drop >>= fun _ => r) ∧ Firm r)
    (hother : ∀ o, marksExponent o = false → f o = f none) (hnone : Firm (f none)) :
    Firm (peek >>= f) := by
  refine Firm.peek_bind _ (fun c => inNumber_of_marksExponent) htaken (fun o ho => ?_) hnone
  apply hother
  cases o with
  | none => rfl
  | some c => simpa using ho c rfl

theorem firm_exponentPart (negative : Bool) (n : Nat) (shift : Int) :
    Firm (exponentPart negative n shift) := by
  rw [exponentPart]
  refine Firm.sign_bind ?_ (fun o hplus hminus => by simp [hplus, hminus]) ?_
  on_goal 1 => rintro c (rfl | rfl) <;> refine ⟨_, rfl, ?_⟩
  -- The digits follow in the same way with either sign and without one.
  all_goals
    refine firm_digits.bind fun ds => ?_
    split
    · exact firm_missingDigit
    · dsimp only
      split
      · split
        · exact Firm.throw
        · exact Firm.pure
      · exact firm_real negative n _

theorem firm_unsigned (negative : Bool) : Firm (unsigned negative) := by
  rw [unsigned]
  refine firm_digits.bind fun ds => ?_
  split
  · exact firm_missingDigit
  · exact Firm.throw
  · refine Firm.peek_bind (fun c => c = '.' ∨ marksExponent (some c) = true) ?_ ?_ ?_ ?_
    · rintro c (rfl | hc)
      · rfl
      · exact inNumber_of_marksExponent hc
    · rintro c (rfl | hc)
      · refine ⟨_, rfl, firm_digits.bind fun fraction => ?_⟩
        split
        · exact firm_missingDigit
        · refine Firm.exponent_bind (fun c hc => ?_) (fun o ho => ?_) (firm_real _ _ _)
          · exact ⟨_, if_pos hc, firm_exponentPart _ _ _⟩
          · rw [ho]
            rfl
      · have hdot : some c ≠ some '.' := by
          rintro ⟨⟩
          cases hc
        exact ⟨_, (if_neg hdot).trans (if_pos hc), firm_exponentPart _ _ _⟩
    · intro o ho
      have hdot : o ≠ some '.' := by
        rintro rfl
        exact ho '.' rfl (.inl rfl)
      have hmark : marksExponent o = false := by
        cases o with
        | none => rfl
        | some c => simpa using fun h => ho c rfl (.inr h)
      rw [if_neg hdot, hmark]
      rfl
    · dsimp only
      rw [if_neg (by simp), if_neg (by decide)]
      split
      · exact Firm.pure
      · exact firm_real _ _ _

theorem firm_number : Firm number := by
  rw [number]
  refine Firm.peek_eq_bind (c := '-') rfl ⟨_, rfl, firm_unsigned true⟩ ?_ (firm_unsigned false)
  intro o ho
  split
  · exact absurd rfl ho
  · rfl

/-! ## Blanks -/

theorem blank_nil : Blank [] := by simp [Blank]

/-- A text is blank, or something stands in it behind blanks. -/
theorem blank_or_solid (t : Text) :
    Blank t ∨ ∃ b c u, Blank b ∧ isBlank c = false ∧ t = b ++ c :: u := by
  have hsplit : t.takeWhile isBlank ++ t.dropWhile isBlank = t := List.takeWhile_append_dropWhile
  have hblank : Blank (t.takeWhile isBlank) := by
    intro c hc
    exact List.all_eq_true.mp List.all_takeWhile c hc
  have hsolid := List.head?_dropWhile_not isBlank t
  cases hu : t.dropWhile isBlank with
  | nil =>
    rw [hu, List.append_nil] at hsplit
    exact .inl (hsplit ▸ hblank)
  | cons c u =>
    rw [hu] at hsplit hsolid
    exact .inr ⟨_, c, u, hblank, hsolid, hsplit.symm⟩

/-- To look for a character behind blanks. -/
theorem peekSolid_bind {f : Option Char → Reader β} {b u : Text} {c : Char} (hb : Blank b)
    (hc : isBlank c = false) : (peekSolid >>= f) (b ++ c :: u) = f (some c) (c :: u) := by
  simp only [bind, StateT.bind, peekSolid_eq hb hc, Except.bind]

theorem peekSolid_bind_cons {f : Option Char → Reader β} {u : Text} {c : Char}
    (hc : isBlank c = false) : (peekSolid >>= f) (c :: u) = f (some c) (c :: u) :=
  peekSolid_bind blank_nil hc

theorem peekSolid_bind_of_blank {f : Option Char → Reader β} (ht : Blank t) :
    (peekSolid >>= f) t = f none [] := by
  have hnil : t.dropWhile isBlank = [] := List.dropWhile_eq_nil_iff.mpr ht
  simp only [bind, StateT.bind, peekSolid, hnil, Except.bind, List.head?_nil]

/-! ## Values between blanks and what stands apart -/

/-- What a reader reads of a value that begins with a certain character is read again where other
text stands apart behind it. No value begins like the end of a list. -/
def Opens (c : Char) (r : Reader α) : Prop :=
  ∀ t a t', r (c :: t) = .ok (a, t') →
    c ≠ ']' ∧ ∃ v, t = v ++ t' ∧ ∀ rest, Apart rest → r (c :: (v ++ rest)) = .ok (a, rest)

/-- A reader of values: neither the blanks in front nor what stands apart behind them matter. -/
def Delimited (r : Reader α) : Prop :=
  ∀ t a t', r t = .ok (a, t') →
    ∃ b c v, Blank b ∧ isBlank c = false ∧ c ≠ ']' ∧ t = b ++ c :: (v ++ t') ∧
      ∀ b' rest, Blank b' → Apart rest → r (b' ++ c :: (v ++ rest)) = .ok (a, rest)

theorem Opens.drop {c : Char} (hc : c ≠ ']') (h : Firm r) : Opens c (drop >>= fun _ => r) := by
  intro t a t' ha
  obtain ⟨v, hv, hfirm⟩ := h t a t' ha
  exact ⟨hc, v, hv, fun rest hrest => hfirm rest (.inr hrest)⟩

theorem Opens.peek_bind {f : Option Char → Reader α} {c : Char} (h : Opens c (f (some c))) :
    Opens c (peek >>= f) := fun t a t' ha => h t a t' ha

theorem Opens.throw {c : Char} {e : Fault} : Opens c (throw e : Reader α) := by
  rintro t a t' ⟨⟩

theorem Opens.bind {c : Char} {g : α → β} (h : Opens c r) :
    Opens c (do return g (← r)) := by
  intro t b t' hb
  obtain ⟨a, u, ha, hb⟩ := bind_eq_ok.mp hb
  obtain ⟨⟩ := hb
  obtain ⟨hc, v, hv, hopens⟩ := h t a t' ha
  exact ⟨hc, v, hv, fun rest hrest => bind_eq_ok.mpr ⟨a, rest, hopens rest hrest, rfl⟩⟩

/-- What a reader takes that does not look far begins with the character shown, if it has to take
something. -/
theorem Firm.opens {c : Char} (h : Firm r) (hnil : ∀ a t', r [] ≠ .ok (a, t')) (hc : c ≠ ']') :
    Opens c r := by
  intro t a t' ha
  obtain ⟨v, hv, hfirm⟩ := h _ _ _ ha
  cases v with
  | nil => exact absurd (hfirm [] (.inr apart_nil)) (hnil a [])
  | cons d v =>
    obtain ⟨rfl, rfl⟩ := List.cons.inj hv
    exact ⟨hc, v, rfl, fun rest hrest => hfirm rest (.inr hrest)⟩

theorem opens_number {c : Char} (hc : c = '-' || isDigit c) : Opens c number :=
  firm_number.opens (by rintro x t' ⟨⟩) (ne_of_number hc (by decide))

theorem Delimited.of_peekSolid {f : Option Char → Reader α}
    (hnone : ∀ a t', f none [] ≠ .ok (a, t'))
    (hsome : ∀ c, isBlank c = false → Opens c (f (some c))) : Delimited (peekSolid >>= f) := by
  intro t a t' h
  rcases blank_or_solid t with ht | ⟨b, c, u, hb, hc, rfl⟩
  · rw [peekSolid_bind_of_blank ht] at h
    exact absurd h (hnone a t')
  · rw [peekSolid_bind hb hc] at h
    obtain ⟨hne, v, rfl, hv⟩ := hsome c hc u a t' h
    refine ⟨b, c, v, hb, hc, hne, rfl, fun b' rest hb' hrest => ?_⟩
    rw [peekSolid_bind hb' hc]
    exact hv rest hrest

/-- Without blanks in front the first character of a value is that of the text. -/
theorem Delimited.opens {c : Char} (h : Delimited r) (hc : isBlank c = false) : Opens c r := by
  intro t a t' ha
  obtain ⟨b, d, v, hb, hd, hne, ht, hv⟩ := h _ _ _ ha
  cases b with
  | nil =>
    obtain ⟨rfl, rfl⟩ := List.cons.inj ht
    exact ⟨hne, v, rfl, fun rest hrest => hv [] rest blank_nil hrest⟩
  | cons e b =>
    obtain ⟨rfl, -⟩ := List.cons.inj ht
    exact absurd (hb c List.mem_cons_self) (by simp [hc])

theorem Delimited.bind {g : α → β} (h : Delimited r) : Delimited (do return g (← r)) := by
  intro t b t' hb
  obtain ⟨a, u, ha, hb⟩ := bind_eq_ok.mp hb
  obtain ⟨⟩ := hb
  obtain ⟨b, c, v, hb, hc, hne, ht, hv⟩ := h t a t' ha
  exact ⟨b, c, v, hb, hc, hne, ht, fun b' rest hb' hrest =>
    bind_eq_ok.mpr ⟨a, rest, hv b' rest hb' hrest, rfl⟩⟩

/-- Local readers take from the front only, and so do readers of values. -/
theorem Local.advances (h : Local r) : Advances r := by
  intro t a t' ha
  obtain ⟨v, rfl, -⟩ := h t a t' ha
  exact List.suffix_append v t'

theorem Delimited.advances (h : Delimited r) : Advances r := by
  intro t a t' ha
  obtain ⟨b, c, v, -, -, -, rfl, -⟩ := h t a t' ha
  exact ⟨b ++ c :: v, by simp⟩

/-- What a local reader took is taken again. -/
theorem Local.again (h : Local r) (hv : Takes r v a) (rest : Text) :
    r (v ++ rest) = .ok (a, rest) := by
  obtain ⟨rest', hv⟩ := hv
  obtain ⟨w, ht, hw⟩ := h _ _ _ hv
  obtain rfl := List.append_cancel_right ht
  exact hw rest

/-- What a value was read from is read again. -/
theorem Delimited.again (h : Delimited r) (hv : Takes r v a) :
    ∃ b c w, Blank b ∧ isBlank c = false ∧ c ≠ ']' ∧ v = b ++ c :: w ∧
      ∀ b' rest, Blank b' → Apart rest → r (b' ++ c :: (w ++ rest)) = .ok (a, rest) := by
  obtain ⟨rest, hv⟩ := hv
  obtain ⟨b, c, w, hb, hc, hne, ht, hw⟩ := h _ _ _ hv
  refine ⟨b, c, w, hb, hc, hne, ?_, hw⟩
  rw [← List.cons_append, ← List.append_assoc] at ht
  exact List.append_cancel_right ht

theorem Takes.bind {g : α → β} (h : Takes r v a) : Takes (do return g (← r)) v (g a) := by
  obtain ⟨rest, h⟩ := h
  exact ⟨rest, bind_eq_ok.mpr ⟨a, rest, h, rfl⟩⟩

/-- The text that a value was read from is read again in front of what stands apart, and alone. -/
theorem Delimited.append (h : Delimited r) (hv : Takes r v a) (hrest : Apart rest) :
    r (v ++ rest) = .ok (a, rest) := by
  obtain ⟨b, c, w, hb, -, -, rfl, hw⟩ := h.again hv
  simpa using hw b rest hb hrest

theorem Delimited.behind_blanks {b : Text} (h : Delimited r) (hv : Takes r v a) (hb : Blank b) :
    Takes r (b ++ v) a := by
  obtain ⟨b', c, w, hb', -, -, rfl, hw⟩ := h.again hv
  refine ⟨[], ?_⟩
  simpa using hw (b ++ b') [] (fun c hc => (List.mem_append.mp hc).elim (hb c) (hb' c)) apart_nil

theorem Delimited.alone (h : Delimited r) (hv : Takes r v a) : r v = .ok (a, []) := by
  simpa using h.append hv apart_nil

theorem Delimited.unique {a' : α} (h : Delimited r) (ha : Takes r v a) (ha' : Takes r v a') :
    a = a' :=
  (Prod.mk.inj (Except.ok.inj ((h.alone ha).symm.trans (h.alone ha')))).1

theorem local_word (w : List Char) : Local (word w) := by
  induction w with
  | nil => exact Local.pure
  | cons c w ih =>
    refine Local.next_bind (by rintro t b t' ⟨⟩) fun d => ?_
    dsimp only
    split
    · exact ih
    · exact Local.throw

theorem opens_unexpected {c : Char} (expected : String) :
    Opens c (unexpected expected : Reader α) :=
  fun _ _ _ h => absurd h (unexpected_ne_ok expected)

theorem delimited_text (expected : String) : Delimited (text expected) := by
  refine Delimited.of_peekSolid (fun _ _ => unexpected_ne_ok expected) fun c _ => ?_
  generalize hd : some c = d
  split
  · cases hd
    exact Opens.drop (by decide) local_string.firm
  · exact opens_unexpected expected

theorem delimited_nat64 : Delimited nat64 := by
  refine Delimited.of_peekSolid (fun _ _ => unexpected_ne_ok _) fun c _ => ?_
  dsimp only
  split
  · next hc =>
    intro t n t' h
    obtain ⟨x, u, hx, hn⟩ := bind_eq_ok.mp h
    obtain ⟨hne, v, hv, hopens⟩ := opens_number hc _ _ _ hx
    split at hn
    · split at hn
      · next hk =>
        obtain ⟨⟩ := hn
        refine ⟨hne, v, hv, fun rest hrest => bind_eq_ok.mpr ⟨_, _, hopens rest hrest, ?_⟩⟩
        exact congrFun (if_pos hk) rest
      · cases hn
    · cases hn
  · exact opens_unexpected _

theorem Delimited.optional (h : Delimited r) : Delimited (optional r) := by
  refine Delimited.of_peekSolid ?_ fun c hc => ?_
  · -- Of a text without characters no value is read.
    intro a t' ha
    obtain ⟨x, u, hx, -⟩ := bind_eq_ok.mp ha
    obtain ⟨b, c, v, -, -, -, ht, -⟩ := h _ _ _ hx
    cases b <;> cases ht
  · generalize hd : some c = d
    split
    · cases hd
      exact Opens.drop (by decide) ((local_word _).bind fun _ => Local.pure).firm
    · exact (h.opens hc).bind

/-- A number that is a name is taken with the quote behind it. -/
theorem local_nat64Name : Local nat64Name := by
  intro t n t' h
  cases t with
  | nil => cases h
  | cons c t =>
    change (if c = '-' || isDigit c then _ else _ : Reader Nat) (c :: t) = _ at h
    split at h
    · next hc =>
      obtain ⟨m, u, hm, hend⟩ := bind_eq_ok.mp h
      obtain ⟨o, w, ho, hend⟩ := bind_eq_ok.mp hend
      obtain ⟨rfl, rfl⟩ := Prod.mk.inj (Except.ok.inj ho)
      split at hend
      · next hquote =>
        obtain ⟨w, rfl⟩ := List.head?_eq_some_iff.mp hquote
        obtain ⟨⟩ := hend
        obtain ⟨-, v, rfl, hv⟩ := delimited_nat64.opens (isBlank_of_number hc) _ _ _ hm
        refine ⟨c :: v ++ ['"'], by simp, fun rest => ?_⟩
        have hmore := hv ('"' :: rest) (apart_cons.mpr rfl)
        change (if c = '-' || isDigit c then _ else _ : Reader Nat) (c :: (v ++ ['"'] ++ rest)) = _
        rw [if_pos hc]
        exact bind_eq_ok.mpr ⟨n, '"' :: rest, by simpa using hmore, rfl⟩
      · cases hend
    · cases h

/-! ## Between members and items -/

theorem Blank.append {b b' : Text} (hb : Blank b) (hb' : Blank b') : Blank (b ++ b') :=
  fun c hc => (List.mem_append.mp hc).elim (hb c) (hb' c)

theorem Separator.append {first : Bool} {s b : Text} (hs : Separator first s) (hb : Blank b) :
    Separator first (s ++ b) := by
  cases first with
  | true => exact Blank.append hs hb
  | false =>
    obtain ⟨b₁, b₂, h₁, h₂, rfl⟩ := hs
    exact ⟨b₁, b₂ ++ b, h₁, h₂.append hb, by simp⟩

/-- Blanks stand apart, and what stands apart may follow them. -/
theorem Blank.apart {b : Text} (hb : Blank b) (ht : Apart t) : Apart (b ++ t) := by
  cases b with
  | nil => exact ht
  | cons c b =>
    have hc := hb c List.mem_cons_self
    simp only [isBlank, Bool.or_eq_true, beq_iff_eq] at hc
    rw [List.cons_append, apart_cons]
    rcases hc with ((rfl | rfl) | rfl) | rfl <;> rfl

theorem Separator.apart {s : Text} (hs : Separator false s) (t : Text) : Apart (s ++ t) := by
  obtain ⟨b, b', hb, -, rfl⟩ := hs
  rw [List.append_assoc]
  exact hb.apart (apart_cons.mpr rfl)

theorem nextItem_true {first : Bool} {s : Text} {c : Char} (hs : Separator first s)
    (hc : isBlank c = false) (hne : c ≠ ']') :
    nextItem first (s ++ c :: t) = .ok (true, c :: t) := by
  cases first with
  | true =>
    refine bind_eq_ok.mpr ⟨_, _, peekSolid_eq hs hc, ?_⟩
    generalize hd : some c = d
    split
    · cases hd
    · exact absurd (Option.some.inj hd) hne
    · rfl
  | false =>
    obtain ⟨b, b', hb, hb', rfl⟩ := hs
    rw [List.append_assoc]
    refine bind_eq_ok.mpr ⟨_, _, peekSolid_eq hb rfl, bind_eq_ok.mpr ⟨_, _, rfl, ?_⟩⟩
    refine bind_eq_ok.mpr ⟨_, _, peekSolid_eq hb' hc, ?_⟩
    generalize hd : some c = d
    split
    · cases hd
    · exact absurd (Option.some.inj hd) hne
    · rfl

theorem nextItem_false {first : Bool} {b : Text} (hb : Blank b) :
    nextItem first (b ++ ']' :: t) = .ok (false, ']' :: t) :=
  bind_eq_ok.mpr ⟨_, _, peekSolid_eq hb rfl, rfl⟩

theorem nextName_true {first : Bool} {s : Text} (hs : Separator first s) :
    nextName first (s ++ '"' :: t) = .ok (true, t) := by
  cases first with
  | true => exact bind_eq_ok.mpr ⟨_, _, peekSolid_eq hs rfl, rfl⟩
  | false =>
    obtain ⟨b, b', hb, hb', rfl⟩ := hs
    rw [List.append_assoc]
    exact bind_eq_ok.mpr ⟨_, _, peekSolid_eq hb rfl,
      bind_eq_ok.mpr ⟨_, _, rfl, bind_eq_ok.mpr ⟨_, _, peekSolid_eq hb' rfl, rfl⟩⟩⟩

theorem nextName_false {first : Bool} {b : Text} (hb : Blank b) :
    nextName first (b ++ '\x7d' :: t) = .ok (false, '\x7d' :: t) :=
  bind_eq_ok.mpr ⟨_, _, peekSolid_eq hb rfl, rfl⟩

theorem colon_eq {b : Text} (hb : Blank b) : colon (b ++ ':' :: t) = .ok ((), t) :=
  bind_eq_ok.mpr ⟨_, _, peekSolid_eq hb rfl, rfl⟩

theorem endOfList_eq {b : Text} (hb : Blank b) : endOfList (b ++ ']' :: t) = .ok ((), t) :=
  bind_eq_ok.mpr ⟨_, _, peekSolid_eq hb rfl, rfl⟩

/-! ## Lists and objects -/

theorem itemsFrom_again {item : Reader α} (h : Delimited item) {fuel : Nat} {first : Bool}
    {read as : List α} (has : itemsFrom item fuel first read t = .ok (as, t')) :
    ∃ v, t = v ++ t' ∧ ∀ rest, (first = false → Apart (v ++ rest)) ∧
      ∀ fuel', (v ++ rest).length < fuel' →
        itemsFrom item fuel' first read (v ++ rest) = .ok (as, rest) := by
  -- By induction on the fuel of the first reading. The second one may have any that suffices.
  induction fuel generalizing first read t with
  | zero => cases has
  | succ fuel ih =>
    obtain ⟨more, u, hmore, hread⟩ := bind_eq_ok.mp has
    cases more with
    | false =>
      rw [if_neg (by decide)] at hread
      obtain ⟨_, w, hw, hread⟩ := bind_eq_ok.mp hread
      obtain ⟨b, w, hb, rfl, rfl⟩ := of_nextItem_false hmore
      obtain ⟨⟩ := hw
      obtain ⟨⟩ := hread
      refine ⟨b ++ [']'], by simp, fun rest => ⟨fun _ => ?_, fun fuel' hlt => ?_⟩⟩
      · rw [List.append_assoc]
        exact hb.apart (apart_cons.mpr rfl)
      · obtain ⟨fuel', rfl⟩ : ∃ n, fuel' = n + 1 := ⟨fuel' - 1, by omega⟩
        rw [List.append_assoc]
        exact bind_eq_ok.mpr ⟨_, _, nextItem_false hb, rfl⟩
    | true =>
      rw [if_pos rfl] at hread
      obtain ⟨s, hs, rfl⟩ := of_nextItem_true hmore
      obtain ⟨a, w, ha, hmore'⟩ := bind_eq_ok.mp hread
      obtain ⟨b, c, v, hb, hc, hne, rfl, hv⟩ := h _ _ _ ha
      obtain ⟨x, rfl, hx⟩ := ih hmore'
      refine ⟨(s ++ b) ++ c :: (v ++ x), by simp, fun rest => ⟨?_, fun fuel' hlt => ?_⟩⟩
      · rintro rfl
        rw [List.append_assoc]
        exact (hs.append hb).apart _
      · obtain ⟨fuel', rfl⟩ : ∃ n, fuel' = n + 1 := ⟨fuel' - 1, by omega⟩
        obtain ⟨hapart, hagain⟩ := hx rest
        have hlt' : (x ++ rest).length < fuel' := by
          simp only [List.length_append, List.length_cons] at hlt ⊢
          omega
        rw [show (s ++ b) ++ c :: (v ++ x) ++ rest = (s ++ b) ++ c :: (v ++ (x ++ rest)) by simp]
        refine bind_eq_ok.mpr ⟨true, _, nextItem_true (hs.append hb) hc hne, ?_⟩
        exact bind_eq_ok.mpr ⟨a, x ++ rest, hv [] _ blank_nil (hapart rfl),
          hagain fuel' hlt'⟩

theorem local_items {item : Reader α} (h : Delimited item) : Local (items item) := by
  intro t as t' has
  obtain ⟨v, rfl, hv⟩ := itemsFrom_again h has
  exact ⟨v, rfl, fun rest => (hv rest).2 _ (Nat.lt_succ_self _)⟩

section Members

variable {κ : Type} [LT κ] [DecidableLT κ] [DecidableEq κ] {name : Reader κ} {value : Reader α}
  {first : Bool} {fuel : Nat} {m m' : OrderedMap κ α} {es : List (κ × α)} {u : Text}

/-- Members that are alike with what their names and values are read as, up to the closing
brace. -/
inductive Entered (name : Reader κ) (value : Reader α) : Bool → List (κ × α) → Text → Prop
  | close {first : Bool} {b : Text} : Blank b → Entered name value first [] (b ++ ['\x7d'])
  | entry {first : Bool} {s written b v t : Text} {k : κ} {a : α} {es : List (κ × α)} :
      Separator first s → Takes name written k → Blank b → Takes value v a →
        Entered name value false es t →
          Entered name value first ((k, a) :: es) (s ++ '"' :: written ++ b ++ ':' :: v ++ t)

/-- The members that were read are entered one after the other. -/
theorem entered_of_membersFrom (hname : Advances name) (hvalue : Advances value)
    (h : membersFrom name value fuel first m t = .ok (m', t')) :
    ∃ es u, t = u ++ t' ∧ Entered name value first es u ∧
      m' = es.foldl (fun m e => OrderedMap.insert e.1 e.2 m) m := by
  induction fuel generalizing first m t with
  | zero => cases h
  | succ fuel ih =>
    obtain ⟨more, u, hmore, h⟩ := bind_eq_ok.mp h
    cases more with
    | false =>
      rw [if_neg (by decide)] at h
      obtain ⟨_, w, hw, h⟩ := bind_eq_ok.mp h
      obtain ⟨b, x, hb, hu, ht⟩ := of_nextName_false hmore
      obtain ⟨⟩ := hw
      obtain ⟨⟩ := h
      exact ⟨[], b ++ ['\x7d'], by simp [ht, hu], .close hb, rfl⟩
    | true =>
      rw [if_pos rfl] at h
      obtain ⟨s, hs, ht⟩ := of_nextName_true hmore
      obtain ⟨k, w, hk, h⟩ := bind_eq_ok.mp h
      obtain ⟨written, hu, hwritten⟩ := hname.takes hk
      obtain ⟨_, x, hcolon, h⟩ := bind_eq_ok.mp h
      obtain ⟨b, hb, hw⟩ := of_colon hcolon
      obtain ⟨a, y, ha, h⟩ := bind_eq_ok.mp h
      obtain ⟨v, hx, hv⟩ := hvalue.takes ha
      obtain ⟨es, z, hy, hes, hm⟩ := ih h
      exact ⟨(k, a) :: es, _, by simp [ht, hu, hw, hx, hy], .entry hs hwritten hb hv hes, hm⟩

omit [LT κ] [DecidableLT κ] [DecidableEq κ] in
theorem Entered.apart (h : Entered name value false es u) (rest : Text) : Apart (u ++ rest) := by
  generalize hfirst : false = first at h
  cases h with
  | close hb =>
    rw [List.append_assoc]
    exact hb.apart (apart_cons.mpr rfl)
  | entry hs =>
    subst hfirst
    simp only [List.append_assoc]
    exact hs.apart _

/-- Members that can be entered are read. -/
theorem membersFrom_of_entered (hname : Local name) (hvalue : Delimited value)
    (h : Entered name value first es u) {rest : Text} (hlt : (u ++ rest).length < fuel) :
    membersFrom name value fuel first m (u ++ rest) =
      .ok (es.foldl (fun m e => OrderedMap.insert e.1 e.2 m) m, rest) := by
  induction h generalizing fuel m with
  | close hb =>
    obtain ⟨fuel, rfl⟩ : ∃ n, fuel = n + 1 := ⟨fuel - 1, by omega⟩
    rw [List.append_assoc]
    exact bind_eq_ok.mpr ⟨_, _, nextName_false hb, rfl⟩
  | @entry first s written b v t k a es hs hk hb ha hes ih =>
    obtain ⟨fuel, rfl⟩ : ∃ n, fuel = n + 1 := ⟨fuel - 1, by omega⟩
    have hlt' : (t ++ rest).length < fuel := by
      simp only [List.length_append, List.length_cons] at hlt ⊢
      omega
    obtain ⟨b', c, w, hb', -, -, rfl, hw⟩ := hvalue.again ha
    simp only [List.append_assoc, List.cons_append]
    refine bind_eq_ok.mpr ⟨true, _, nextName_true hs, ?_⟩
    refine bind_eq_ok.mpr ⟨k, _, hname.again hk _, bind_eq_ok.mpr ⟨(), _, colon_eq hb, ?_⟩⟩
    exact bind_eq_ok.mpr ⟨a, t ++ rest, hw b' _ hb' (hes.apart rest), ih hlt'⟩

/-- An object is read if its members can be entered. -/
theorem takes_map_of_entered {depth : Nat} (hdepth : depth ≠ 0) (hname : Local name)
    (hvalue : Delimited value) (h : Entered name value true es u) :
    Takes (map depth name value) ('\x7b' :: u)
      (es.foldl (fun m e => OrderedMap.insert e.1 e.2 m) []) := by
  refine ⟨[], ?_⟩
  rw [List.cons_append, map, peekSolid_bind_cons rfl, if_neg hdepth]
  exact bind_eq_ok.mpr ⟨(), _, rfl, bind_eq_ok.mpr ⟨_, _, rfl,
    membersFrom_of_entered hname hvalue h (Nat.lt_succ_self _)⟩⟩

theorem local_members (hname : Local name) (hvalue : Delimited value) :
    Local (members name value) := by
  intro t m t' hm
  obtain ⟨es, u, rfl, hes, rfl⟩ := entered_of_membersFrom hname.advances hvalue.advances hm
  exact ⟨u, rfl, fun rest => membersFrom_of_entered hname hvalue hes (Nat.lt_succ_self _)⟩

end Members

/-! ## Values -/

theorem opens_scalar (c : Char) : Opens c scalar := by
  refine Opens.peek_bind ?_
  generalize hd : some c = d
  split
  · cases hd
    exact Opens.drop (by decide) ((local_word _).bind fun _ => Local.pure).firm
  · cases hd
    exact Opens.drop (by decide) ((local_word _).bind fun _ => Local.pure).firm
  · cases hd
    exact Opens.drop (by decide) ((local_word _).bind fun _ => Local.pure).firm
  · cases hd
    exact Opens.drop (by decide) (local_string.bind fun _ => Local.pure).firm
  · cases hd
    split
    · next hc => exact (opens_number hc).bind
    · exact Opens.throw
  · cases hd

theorem delimited_value (depth : Nat) : Delimited (value depth) := by
  induction depth with
  | zero =>
    refine Delimited.of_peekSolid (by rintro a t' ⟨⟩) fun c _ => ?_
    generalize hd : some c = d
    split
    · exact Opens.throw
    · exact Opens.throw
    · exact opens_scalar c
  | succ depth ih =>
    refine Delimited.of_peekSolid (by rintro a t' ⟨⟩) fun c _ => ?_
    generalize hd : some c = d
    split
    · cases hd
      exact Opens.drop (by decide) ((local_items ih).bind fun _ => Local.pure).firm
    · cases hd
      exact Opens.drop (by decide) ((local_members local_string ih).bind fun _ => Local.pure).firm
    · exact opens_scalar c

theorem delimited_map {κ : Type} [LT κ] [DecidableLT κ] [DecidableEq κ] (depth : Nat)
    {name : Reader κ} {value : Reader α} (hname : Local name) (hvalue : Delimited value) :
    Delimited (map depth name value) := by
  refine Delimited.of_peekSolid (fun _ _ => unexpected_ne_ok _) fun c _ => ?_
  generalize hd : some c = d
  split
  · split
    · exact Opens.throw
    · cases hd
      exact Opens.drop (by decide) (local_members hname hvalue).firm
  · exact opens_unexpected _

end BytecodeParity.Json.Reader
