import BytecodeParity.Proofs.Json.Locality
/-!
# Passing over values

A value that is not wanted is passed over with a stack of the containers that are open. **It is
delimited like a value that is read** (`delimited_skipValue`): it is passed over in the same way
wherever it stands. The fuel is no obstacle there, since no character needs more than two steps
(`steps`).
-/

namespace BytecodeParity.Json.Reader

variable {fuel : Nat} {position : Position} {stack : List Container} {container : Container}
  {t t' b u : Text} {c : Char}

/-! ## Values without parts -/

theorem firm_skipDigits : Firm skipDigits := by
  refine firm_digits.bind fun ds => ?_
  split
  · exact Firm.throw
  · exact Firm.pure

theorem firm_skipExponent : Firm skipExponent := by
  rw [skipExponent]
  refine Firm.exponent_bind (fun c hc => ?_) (fun o ho => by rw [ho]; rfl) Firm.pure
  refine ⟨_, if_pos hc, Firm.sign_bind ?_ (fun o hplus hminus => by simp [hplus, hminus]) ?_⟩
  · rintro c (rfl | rfl) <;> exact ⟨_, rfl, firm_skipDigits⟩
  · exact firm_skipDigits

theorem firm_skipNumber : Firm skipNumber := by
  rw [skipNumber]
  refine Firm.peek_eq_bind (c := '-') rfl ⟨_, rfl, ?_⟩ (fun o ho => by simp [ho]) ?_
  -- The digits follow in the same way with a sign and without one.
  all_goals
    refine firm_digits.bind fun ds => ?_
    split
    · exact Firm.throw
    · exact Firm.throw
    · refine Firm.peek_eq_bind (c := '.') rfl ⟨_, rfl, ?_⟩ (fun o ho => by simp [ho]) ?_
      · exact firm_skipDigits.bind fun _ => firm_skipExponent
      · exact firm_skipExponent

theorem local_skipString : Local skipString :=
  local_remaining_bind (local_hexUnit.bind fun _ => Local.pure)
    (advances_hexUnit.bind fun _ => Advances.pure)

theorem opens_skipScalar (c : Char) : Opens c skipScalar := by
  refine Opens.peek_bind ?_
  generalize hd : some c = d
  split
  · cases hd
    exact Opens.drop (by decide) (local_word _).firm
  · cases hd
    exact Opens.drop (by decide) (local_word _).firm
  · cases hd
    exact Opens.drop (by decide) (local_word _).firm
  · cases hd
    exact Opens.drop (by decide) local_skipString.firm
  · cases hd
    split
    · next hc => exact firm_skipNumber.opens (by rintro x t' ⟨⟩) (ne_of_number hc (by decide))
    · exact Opens.throw
  · cases hd

theorem local_colon : Local colon := by
  intro t a t' h
  obtain ⟨b, hb, rfl⟩ := of_colon h
  refine ⟨b ++ [':'], by simp, fun rest => ?_⟩
  rw [List.append_assoc]
  exact colon_eq hb

theorem local_skipName : Local skipName := by
  intro t a t' h
  rcases blank_or_solid t with ht | ⟨b, c, u, hb, hc, rfl⟩
  · rw [skipName, peekSolid_bind_of_blank ht] at h
    cases h
  · rw [skipName, peekSolid_bind hb hc] at h
    generalize hd : some c = d at h
    split at h
    · cases h
    · cases hd
      obtain ⟨v, rfl, hv⟩ := (local_skipString.bind fun _ => local_colon) _ _ _ h
      refine ⟨b ++ '"' :: v, by simp, fun rest => ?_⟩
      rw [skipName, List.append_assoc, List.cons_append, peekSolid_bind hb hc]
      exact hv rest
    · cases h

/-! ## Steps -/

/-- The bracket that opens a container. -/
def Container.opening : Container → Char
  | list => '['
  | object => '\x7b'

/-- Goes on with the next value in a container. -/
def enter (fuel : Nat) (container : Container) (stack : List Container) : Reader Unit := do
  if container = .object then skipName
  skipFrom fuel .beforeValue (container :: stack)

/-- Where something has to follow, blanks are not enough. -/
theorem skipFrom_of_blank (ht : Blank t) (h : position = .beforeValue ∨ stack ≠ []) :
    skipFrom fuel position stack t ≠ .ok ((), t') := by
  intro hok
  cases fuel with
  | zero => cases hok
  | succ fuel =>
    by_cases hposition : position = .beforeValue
    · subst hposition
      rw [skipFrom, peekSolid_bind_of_blank ht] at hok
      cases hok
    · cases stack with
      | nil => simp [hposition] at h
      | cons container stack =>
        rw [skipFrom, peekSolid_bind_of_blank ht] at hok
        · cases hok
        · exact hposition

theorem enter_nil : enter fuel container stack [] ≠ .ok ((), t') := by
  intro h
  rw [enter] at h
  split at h
  · cases h
  · exact skipFrom_of_blank blank_nil (.inl rfl) h

theorem skipFrom_opening (hb : Blank b) :
    skipFrom (fuel + 1) .beforeValue stack (b ++ container.opening :: u) =
      skipFrom fuel .opened (container :: stack) u := by
  rw [skipFrom]
  cases container <;> (rw [Container.opening, peekSolid_bind hb rfl]; rfl)

theorem skipFrom_scalar (hb : Blank b) (hc : isBlank c = false)
    (hopening : ∀ container : Container, c ≠ container.opening) :
    skipFrom (fuel + 1) .beforeValue stack (b ++ c :: u) =
      (skipScalar >>= fun _ => skipFrom fuel .afterValue stack) (c :: u) := by
  rw [skipFrom, peekSolid_bind hb hc]
  generalize hd : some c = d
  split
  · exact absurd (Option.some.inj hd) (hopening .list)
  · exact absurd (Option.some.inj hd) (hopening .object)
  · rfl

/-- Once no container is open there is nothing left. -/
theorem skipFrom_nil (hposition : position ≠ .beforeValue) :
    skipFrom (fuel + 1) position [] t = .ok ((), t) := by
  rw [skipFrom]
  · rfl
  · exact hposition

theorem skipFrom_cons (hposition : position ≠ .beforeValue) (hb : Blank b)
    (hc : isBlank c = false) :
    skipFrom (fuel + 1) position (container :: stack) (b ++ c :: u) =
      if c = container.closing then skipFrom fuel .afterValue stack u
      else if position = .opened then enter fuel container stack (c :: u)
      else if c = ',' then enter fuel container stack u
      else .error container.expectedSeparator := by
  rw [skipFrom, peekSolid_bind hb hc]
  · dsimp only [enter]
    split_ifs <;> rfl
  · exact hposition

/-! ## Passing over again -/

/-- How many steps a text may take. -/
def steps : Position → Nat → Nat
  | .opened, n => 2 * n + 2
  | .beforeValue, n => 2 * n + 1
  | .afterValue, n => 2 * n + 1

/-- A text is passed over, where other text stands apart behind it and the fuel suffices. -/
def PassedOver (position : Position) (stack : List Container) (v : Text) : Prop :=
  ∀ rest, Apart rest → ∀ fuel, steps position (v ++ rest).length ≤ fuel →
    skipFrom fuel position stack (v ++ rest) = .ok ((), rest)

/-- The same from the next value in a container on. -/
def PassedFrom (container : Container) (stack : List Container) (v : Text) : Prop :=
  ∀ rest, Apart rest → ∀ fuel, steps .beforeValue (v ++ rest).length ≤ fuel →
    enter fuel container stack (v ++ rest) = .ok ((), rest)

variable {v w : Text}

/-- Whatever has to take a step has fuel for one. -/
theorem passedOver_of_succ
    (h : ∀ rest, Apart rest → ∀ fuel, steps position (v ++ rest).length ≤ fuel + 1 →
      skipFrom (fuel + 1) position stack (v ++ rest) = .ok ((), rest)) :
    PassedOver position stack v := by
  intro rest hrest fuel hfuel
  cases fuel with
  | zero => cases position <;> simp [steps] at hfuel
  | succ fuel => exact h rest hrest fuel hfuel

theorem PassedOver.opening (hb : Blank b) (hv : PassedOver .opened (container :: stack) v) :
    PassedOver .beforeValue stack (b ++ container.opening :: v) := by
  refine passedOver_of_succ fun rest hrest fuel hfuel => ?_
  rw [List.append_assoc, List.cons_append] at hfuel ⊢
  rw [skipFrom_opening hb]
  apply hv rest hrest
  simp only [steps, List.length_append, List.length_cons] at hfuel ⊢
  omega

/-- What follows a value without parts has to stand apart from it. -/
theorem PassedOver.scalar (hb : Blank b) (hc : isBlank c = false)
    (hopening : ∀ container : Container, c ≠ container.opening)
    (hw : ∀ rest, Apart rest → skipScalar (c :: (w ++ rest)) = .ok ((), rest))
    (hapart : ∀ rest, Apart rest → Apart (v ++ rest)) (hv : PassedOver .afterValue stack v) :
    PassedOver .beforeValue stack (b ++ c :: (w ++ v)) := by
  refine passedOver_of_succ fun rest hrest fuel hfuel => ?_
  rw [List.append_assoc, List.cons_append, List.append_assoc] at hfuel ⊢
  rw [skipFrom_scalar hb hc hopening]
  refine bind_eq_ok.mpr ⟨(), v ++ rest, hw _ (hapart rest hrest), hv rest hrest fuel ?_⟩
  simp only [steps, List.length_append, List.length_cons] at hfuel ⊢
  omega

theorem PassedOver.nil (hposition : position ≠ .beforeValue) : PassedOver position [] [] :=
  passedOver_of_succ fun _ _ _ _ => skipFrom_nil hposition

theorem PassedOver.closing (hposition : position ≠ .beforeValue) (hb : Blank b)
    (hv : PassedOver .afterValue stack v) :
    PassedOver position (container :: stack) (b ++ container.closing :: v) := by
  refine passedOver_of_succ fun rest hrest fuel hfuel => ?_
  rw [List.append_assoc, List.cons_append] at hfuel ⊢
  rw [skipFrom_cons hposition hb (by cases container <;> rfl), if_pos rfl]
  apply hv rest hrest
  cases position <;> simp only [steps, List.length_append, List.length_cons] at hfuel ⊢ <;> omega

theorem PassedOver.first (hb : Blank b) (hc : isBlank c = false) (hclosing : c ≠ container.closing)
    (hv : PassedFrom container stack (c :: v)) :
    PassedOver .opened (container :: stack) (b ++ c :: v) := by
  refine passedOver_of_succ fun rest hrest fuel hfuel => ?_
  rw [List.append_assoc, List.cons_append] at hfuel ⊢
  rw [skipFrom_cons (by simp) hb hc, if_neg hclosing, if_pos rfl]
  apply hv rest hrest
  simp only [steps, List.length_append, List.length_cons] at hfuel ⊢
  omega

theorem PassedOver.further (hb : Blank b) (hv : PassedFrom container stack v) :
    PassedOver .afterValue (container :: stack) (b ++ ',' :: v) := by
  refine passedOver_of_succ fun rest hrest fuel hfuel => ?_
  rw [List.append_assoc, List.cons_append] at hfuel ⊢
  rw [skipFrom_cons (by simp) hb rfl, if_neg (by cases container <;> decide), if_neg (by simp),
    if_pos rfl]
  apply hv rest hrest
  simp only [steps, List.length_append, List.length_cons] at hfuel ⊢
  omega

theorem PassedFrom.object (hw : ∀ rest, skipName (w ++ rest) = .ok ((), rest))
    (hv : PassedOver .beforeValue (.object :: stack) v) : PassedFrom .object stack (w ++ v) := by
  intro rest hrest fuel hfuel
  rw [List.append_assoc] at hfuel ⊢
  refine bind_eq_ok.mpr ⟨(), v ++ rest, hw _, hv rest hrest fuel ?_⟩
  simp only [steps, List.length_append] at hfuel ⊢
  omega

/-- What was taken is passed over from a next value on if this holds of what is passed over. -/
theorem passedFrom_of_enter
    (ih : ∀ u, skipFrom fuel .beforeValue (container :: stack) u = .ok ((), t') →
      ∃ v, u = v ++ t' ∧ PassedOver .beforeValue (container :: stack) v)
    (h : enter fuel container stack t = .ok ((), t')) :
    ∃ v, t = v ++ t' ∧ PassedFrom container stack v := by
  cases container with
  | list => exact ih t h
  | object =>
    obtain ⟨_, u, hname, hvalue⟩ := bind_eq_ok.mp h
    obtain ⟨w, rfl, hw⟩ := local_skipName _ _ _ hname
    obtain ⟨v, rfl, hv⟩ := ih u hvalue
    exact ⟨w ++ v, by simp, PassedFrom.object hw hv⟩

theorem passedOver_of_skipFrom (h : skipFrom fuel position stack t = .ok ((), t')) :
    ∃ v, t = v ++ t' ∧ PassedOver position stack v ∧
      (position = .afterValue → ∀ rest, Apart rest → Apart (v ++ rest)) := by
  induction fuel generalizing position stack t with
  | zero => cases h
  | succ fuel ih =>
    have ihfrom {container : Container} {stack : List Container} {t : Text}
        (h : enter fuel container stack t = .ok ((), t')) :
        ∃ v, t = v ++ t' ∧ PassedFrom container stack v := by
      refine passedFrom_of_enter (fun u hu => ?_) h
      obtain ⟨v, ht, hv, -⟩ := ih hu
      exact ⟨v, ht, hv⟩
    by_cases hposition : position = .beforeValue
    · subst hposition
      rcases blank_or_solid t with ht | ⟨b, c, u, hb, hc, rfl⟩
      · exact absurd h (skipFrom_of_blank ht (.inl rfl))
      by_cases hopening : ∃ container : Container, c = container.opening
      · obtain ⟨container, rfl⟩ := hopening
        rw [skipFrom_opening hb] at h
        obtain ⟨v, rfl, hv, -⟩ := ih h
        exact ⟨b ++ container.opening :: v, by simp, .opening hb hv, by rintro ⟨⟩⟩
      · have hopening' : ∀ container : Container, c ≠ container.opening := by simpa using hopening
        rw [skipFrom_scalar hb hc hopening'] at h
        obtain ⟨_, x, hscalar, hrest⟩ := bind_eq_ok.mp h
        obtain ⟨-, w, rfl, hw⟩ := opens_skipScalar c _ _ _ hscalar
        obtain ⟨v, rfl, hv, hapart⟩ := ih hrest
        exact ⟨b ++ c :: (w ++ v), by simp, .scalar hb hc hopening' hw (hapart rfl) hv,
          by rintro ⟨⟩⟩
    cases stack with
    | nil =>
      rw [skipFrom_nil hposition] at h
      obtain ⟨⟩ := h
      exact ⟨[], rfl, .nil hposition, fun _ rest hrest => hrest⟩
    | cons container stack =>
      rcases blank_or_solid t with ht | ⟨b, c, u, hb, hc, rfl⟩
      · exact absurd h (skipFrom_of_blank ht (.inr (by simp)))
      rw [skipFrom_cons hposition hb hc] at h
      split_ifs at h with hclosing hopened hcomma
      · subst hclosing
        obtain ⟨v, rfl, hv, -⟩ := ih h
        refine ⟨b ++ container.closing :: v, by simp, .closing hposition hb hv, fun _ rest _ => ?_⟩
        rw [List.append_assoc]
        exact hb.apart (apart_cons.mpr (by cases container <;> rfl))
      · subst hopened
        obtain ⟨v, hu, hv⟩ := ihfrom h
        cases v with
        | nil => exact absurd (hv [] apart_nil _ (Nat.le_refl _)) enter_nil
        | cons d v =>
          obtain ⟨rfl, rfl⟩ := List.cons.inj hu
          exact ⟨b ++ c :: v, by simp, .first hb hc hclosing hv, by rintro ⟨⟩⟩
      · subst hcomma
        obtain rfl : position = .afterValue := by cases position <;> simp_all
        obtain ⟨v, rfl, hv⟩ := ihfrom h
        refine ⟨b ++ ',' :: v, by simp, .further hb hv, fun _ rest _ => ?_⟩
        rw [List.append_assoc]
        exact hb.apart (apart_cons.mpr rfl)

/-- Blanks in front take no step. -/
theorem skipFrom_behind_blanks (hb : Blank b) (hc : isBlank c = false) :
    skipFrom fuel .beforeValue stack (b ++ c :: u) = skipFrom fuel .beforeValue stack (c :: u) := by
  cases fuel with
  | zero => rfl
  | succ fuel =>
    rw [skipFrom, peekSolid_bind hb hc, peekSolid_bind_cons hc]

/-- The fuel for a value is sufficient. -/
theorem delimited_skipValue : Delimited skipValue := by
  intro t _ t' h
  obtain ⟨n, u, hn, h⟩ := bind_eq_ok.mp h
  obtain ⟨⟩ := hn
  rcases blank_or_solid t with ht | ⟨b, c, u, hb, hc, rfl⟩
  · exact absurd h (skipFrom_of_blank ht (.inl rfl))
  rw [skipFrom_behind_blanks hb hc] at h
  obtain ⟨v, hu, hv, -⟩ := passedOver_of_skipFrom h
  cases v with
  | nil =>
    have hnil := hv [] apart_nil _ (Nat.le_refl _)
    exact absurd hnil (skipFrom_of_blank blank_nil (.inl rfl))
  | cons d v =>
    obtain ⟨rfl, rfl⟩ := List.cons.inj hu
    refine ⟨b, c, v, hb, hc, ?_, rfl, fun b' rest hb' hrest => bind_eq_ok.mpr ⟨_, _, rfl, ?_⟩⟩
    · rintro rfl
      cases h
    · rw [skipFrom_behind_blanks hb' hc]
      apply hv rest hrest
      simp only [steps, List.length_append, List.length_cons]
      omega

end BytecodeParity.Json.Reader
