import BytecodeParity.Proofs.Json.Leaves
/-!
# Records and the texts they were read from

A record is read from an object or from a list. **Whatever was read, its text is one of them**
(`Layout.of_parse`): an object with certain members (`IsObject`) from which the record was filled
member by member (`Filled`), or a list of certain items (`IsList`) that filled the fields in order
(`FilledInOrder`).

Where one field alone decides a part of the record (`Sets`), filling the record comes down to the
members of its name: **there is exactly one member, and the part is what was read from it, or there
is none and the part is as it was** (`Filled.part`).
-/

namespace BytecodeParity.Json.Reader

variable {α σ : Type} {t t' : Text} {first : Bool}

/-! ## Objects and lists as texts -/

/-- What stands in front of a member or of an item: blanks, with a comma in the middle unless it is
the first. -/
def Separator : Bool → Text → Prop
  | true, s => Blank s
  | false, s => ∃ b b', Blank b ∧ Blank b' ∧ s = b ++ ',' :: b'

/-- Members with their names and with the texts of their values, up to the closing brace. -/
inductive MembersText : Bool → List (String × Text) → Text → Prop
  | close {first : Bool} {b : Text} : Blank b → MembersText first [] (b ++ ['\x7d'])
  | member {first : Bool} {s written b value t : Text} {name : String}
      {members : List (String × Text)} :
      Separator first s → Takes string written name → Blank b → MembersText false members t →
        MembersText first ((name, value) :: members) (s ++ '"' :: written ++ b ++ ':' :: value ++ t)

/-- Items as texts, up to the closing bracket. -/
inductive ItemsText : Bool → List Text → Text → Prop
  | close {first : Bool} {b : Text} : Blank b → ItemsText first [] (b ++ [']'])
  | item {first : Bool} {s value t : Text} {items : List Text} :
      Separator first s → ItemsText false items t → ItemsText first (value :: items) (s ++ value ++ t)

/-- A text is an object with these members. -/
def IsObject (members : List (String × Text)) (text : Text) : Prop :=
  ∃ b t e, Blank b ∧ Blank e ∧ text = b ++ '\x7b' :: t ++ e ∧ MembersText true members t

/-- A text is a list of these items. -/
def IsList (items : List Text) (text : Text) : Prop :=
  ∃ b t e, Blank b ∧ Blank e ∧ text = b ++ '[' :: t ++ e ∧ ItemsText true items t

/-- What a whole text was read into was read off its front, with nothing but blanks behind it. -/
theorem of_whole {read : Reader α} {a : α} (h : whole read t = .ok a) :
    ∃ rest, read t = .ok (a, rest) ∧ Blank rest := by
  rw [whole] at h
  cases hread : read t with
  | error e =>
    rw [hread] at h
    cases h
  | ok taken =>
    rw [hread] at h
    simp only [bind, Except.bind] at h
    split at h
    · next hrest =>
      obtain ⟨⟩ := h
      exact ⟨taken.2, rfl, List.dropWhile_eq_nil_iff.mp (List.isEmpty_iff.mp hrest)⟩
    · cases h

/-! ## Between members and items -/

theorem of_colon {u : Unit} (h : colon t = .ok (u, t')) : ∃ b, Blank b ∧ t = b ++ ':' :: t' := by
  obtain ⟨b, c, u, hb, ht, hhead, h⟩ := of_peekSolid_bind h
  split at h
  · cases h
  · obtain ⟨u, rfl⟩ := List.head?_eq_some_iff.mp hhead
    obtain ⟨⟩ := h
    exact ⟨b, hb, ht⟩
  · cases h

theorem of_endOfList {u : Unit} (h : endOfList t = .ok (u, t')) : ∃ b, Blank b ∧ t = b ++ ']' :: t' := by
  obtain ⟨b, c, u, hb, ht, hhead, h⟩ := of_peekSolid_bind h
  split at h
  · cases h
  · obtain ⟨u, rfl⟩ := List.head?_eq_some_iff.mp hhead
    obtain ⟨⟩ := h
    exact ⟨b, hb, ht⟩
  · obtain ⟨_, u, -, h⟩ := bind_eq_ok.mp h
    obtain ⟨c, u, -, h⟩ := bind_eq_ok.mp h
    split at h <;> cases h
  · cases h

theorem of_nextName_true (h : nextName first t = .ok (true, t')) :
    ∃ s, Separator first s ∧ t = s ++ '"' :: t' := by
  obtain ⟨b, c, u, hb, ht, hhead, h⟩ := of_peekSolid_bind h
  split at h
  · cases h
  · cases h
  · obtain ⟨u, rfl⟩ := List.head?_eq_some_iff.mp hhead
    cases first with
    | true =>
      rw [if_pos rfl] at h
      split at h
      · next hquote =>
        obtain ⟨⟩ := h
        exact ⟨b, hb, by rw [ht, hquote]; rfl⟩
      · cases h
    | false =>
      rw [if_neg (by decide)] at h
      split at h
      · next hcomma =>
        obtain ⟨_, w, hw, h⟩ := bind_eq_ok.mp h
        obtain ⟨⟩ := hw
        obtain ⟨b', d, w, hb', hw, hhead, h⟩ := of_peekSolid_bind h
        split at h
        · cases h
        · obtain ⟨w, rfl⟩ := List.head?_eq_some_iff.mp hhead
          obtain ⟨⟩ := h
          refine ⟨b ++ ',' :: b', ⟨b, b', hb, hb', rfl⟩, ?_⟩
          rw [ht, hcomma, show u = b' ++ '"' :: w from hw, List.append_assoc, List.cons_append]
          rfl
        · cases h
        · cases h
      · cases h

theorem of_nextName_false (h : nextName first t = .ok (false, t')) :
    ∃ b u, Blank b ∧ t' = '\x7d' :: u ∧ t = b ++ t' := by
  obtain ⟨b, c, u, hb, ht, hhead, h⟩ := of_peekSolid_bind h
  split at h
  · cases h
  · obtain ⟨⟩ := h
    obtain ⟨u, rfl⟩ := List.head?_eq_some_iff.mp hhead
    exact ⟨b, u, hb, rfl, ht⟩
  · split at h
    · split at h <;> cases h
    · split at h
      · obtain ⟨_, w, -, h⟩ := bind_eq_ok.mp h
        obtain ⟨d, w, -, h⟩ := bind_eq_ok.mp h
        split at h <;> cases h
      · cases h

theorem of_nextItem_true (h : nextItem first t = .ok (true, t')) :
    ∃ s, Separator first s ∧ t = s ++ t' := by
  obtain ⟨b, c, u, hb, ht, hhead, h⟩ := of_peekSolid_bind h
  split at h
  · cases h
  · cases h
  · obtain ⟨u, rfl⟩ := List.head?_eq_some_iff.mp hhead
    cases first with
    | true =>
      obtain ⟨⟩ := h
      exact ⟨b, hb, ht⟩
    | false =>
      rw [if_neg (by decide)] at h
      split at h
      · next hcomma =>
        obtain ⟨_, w, hw, h⟩ := bind_eq_ok.mp h
        obtain ⟨⟩ := hw
        obtain ⟨b', d, w, hb', hw, hhead, h⟩ := of_peekSolid_bind h
        split at h
        · cases h
        · cases h
        · obtain ⟨⟩ := h
          refine ⟨b ++ ',' :: b', ⟨b, b', hb, hb', rfl⟩, ?_⟩
          rw [ht, hcomma, show u = b' ++ t' from hw, List.append_assoc, List.cons_append]
      · cases h

theorem of_nextItem_false (h : nextItem first t = .ok (false, t')) :
    ∃ b u, Blank b ∧ t' = ']' :: u ∧ t = b ++ t' := by
  obtain ⟨b, c, u, hb, ht, hhead, h⟩ := of_peekSolid_bind h
  split at h
  · cases h
  · obtain ⟨⟩ := h
    obtain ⟨u, rfl⟩ := List.head?_eq_some_iff.mp hhead
    exact ⟨b, u, hb, rfl, ht⟩
  · split at h
    · cases h
    · split at h
      · obtain ⟨_, w, -, h⟩ := bind_eq_ok.mp h
        obtain ⟨d, w, -, h⟩ := bind_eq_ok.mp h
        split at h <;> cases h
      · cases h

/-! ## Filling a record -/

namespace Layout

variable {l : Layout σ} {seen : List String} {r r' : σ}

/-- How members fill a record, the fields of which those seen have been read. -/
inductive Filled (l : Layout σ) : List String → σ → List (String × Text) → σ → Prop
  | done {seen : List String} {r : σ} : l.absent? seen = none → Filled l seen r [] r
  | unknown {seen : List String} {r r' : σ} {name : String} {value : Text}
      {members : List (String × Text)} :
      (l.fields.find? fun f => f.name == name) = none → Takes skipValue value () →
        Filled l seen r members r' → Filled l seen r ((name, value) :: members) r'
  | known {seen : List String} {r r₁ r' : σ} {name : String} {value : Text} {f : Field σ}
      {members : List (String × Text)} :
      (l.fields.find? fun f => f.name == name) = some f → name ∉ seen →
        Takes (f.read r) value r₁ → Filled l (name :: seen) r₁ members r' →
          Filled l seen r ((name, value) :: members) r'

/-- How items fill the fields of a record in order. -/
inductive FilledInOrder : List (Field σ) → σ → List Text → σ → Prop
  | done {fields : List (Field σ)} {r : σ} :
      (∀ f ∈ fields, f.requiredInList = false) → FilledInOrder fields r [] r
  | field {fields : List (Field σ)} {r r₁ r' : σ} {value : Text} {f : Field σ} {items : List Text} :
      Takes (f.read r) value r₁ → FilledInOrder fields r₁ items r' →
        FilledInOrder (f :: fields) r (value :: items) r'

theorem filled_of_membersFrom (hread : ∀ f ∈ l.fields, ∀ r, Advances (f.read r)) {fuel : Nat}
    (h : l.membersFrom fuel first seen r t = .ok (r', t')) :
    ∃ members u, t = u ++ t' ∧ MembersText first members u ∧ Filled l seen r members r' := by
  induction fuel generalizing first seen r t with
  | zero => cases h
  | succ fuel ih =>
    obtain ⟨more, u, hmore, h⟩ := bind_eq_ok.mp h
    cases more with
    | false =>
      rw [if_neg (by decide)] at h
      obtain ⟨b, w, hb, hu, ht⟩ := of_nextName_false hmore
      cases habsent : l.absent? seen with
      | some field =>
        rw [habsent] at h
        cases h
      | none =>
        rw [habsent] at h
        obtain ⟨_, x, hx, h⟩ := bind_eq_ok.mp h
        obtain ⟨⟩ := hx
        obtain ⟨⟩ := h
        exact ⟨[], b ++ ['\x7d'], by simp [ht, hu], .close hb, .done habsent⟩
    | true =>
      rw [if_pos rfl] at h
      obtain ⟨s, hs, ht⟩ := of_nextName_true hmore
      obtain ⟨name, w, hname, h⟩ := bind_eq_ok.mp h
      obtain ⟨written, hu, hwritten⟩ := advances_string.takes hname
      -- Behind the name, members of known and of unknown names are alike but for their values.
      suffices hmember : ∃ b value x r₁ seen₁, Blank b ∧ w = b ++ ':' :: value ++ x ∧
          l.membersFrom fuel false seen₁ r₁ x = .ok (r', t') ∧
          ∀ members, Filled l seen₁ r₁ members r' → Filled l seen r ((name, value) :: members) r' by
        obtain ⟨b, value, x, r₁, seen₁, hb, hw, hrest, hfilled⟩ := hmember
        obtain ⟨members, y, hx, hmembers, hy⟩ := ih hrest
        exact ⟨(name, value) :: members, _, by simp [ht, hu, hw, hx],
          .member hs hwritten hb hmembers, hfilled _ hy⟩
      cases hfind : l.fields.find? fun f => f.name == name with
      | none =>
        rw [hfind] at h
        obtain ⟨_, w', hcolon, h⟩ := bind_eq_ok.mp h
        obtain ⟨b, hb, hw⟩ := of_colon hcolon
        obtain ⟨_, x, hskip, h⟩ := bind_eq_ok.mp h
        obtain ⟨value, hw', hvalue⟩ := advances_skipValue.takes hskip
        exact ⟨b, value, x, r, seen, hb, by simp [hw, hw'], h, fun _ hm => .unknown hfind hvalue hm⟩
      | some f =>
        rw [hfind] at h
        dsimp only at h
        split at h
        · cases h
        · next hseen =>
          obtain ⟨_, w', hcolon, h⟩ := bind_eq_ok.mp h
          obtain ⟨b, hb, hw⟩ := of_colon hcolon
          obtain ⟨r₁, x, hfield, h⟩ := bind_eq_ok.mp h
          obtain ⟨value, hw', hvalue⟩ := (hread f (List.mem_of_find?_eq_some hfind) r).takes hfield
          exact ⟨b, value, x, r₁, name :: seen, hb, by simp [hw, hw'], h,
            fun _ hm => .known hfind (by simpa using hseen) hvalue hm⟩

theorem filledInOrder_of_itemsFrom {fields : List (Field σ)}
    (hread : ∀ f ∈ fields, ∀ r, Advances (f.read r)) {read : Nat}
    (h : l.itemsFrom fields read r t = .ok (r', t')) :
    ∃ items u, t = u ++ t' ∧ ItemsText (read = 0) items u ∧ FilledInOrder fields r items r' := by
  induction fields generalizing read r t with
  | nil =>
    obtain ⟨_, u, hend, h⟩ := bind_eq_ok.mp h
    obtain ⟨⟩ := h
    obtain ⟨b, hb, rfl⟩ := of_endOfList hend
    exact ⟨[], b ++ [']'], by simp, .close hb, .done (by simp)⟩
  | cons f fields ih =>
    obtain ⟨more, u, hmore, h⟩ := bind_eq_ok.mp h
    cases more with
    | true =>
      rw [if_pos rfl] at h
      obtain ⟨s, hs, ht⟩ := of_nextItem_true hmore
      obtain ⟨r₁, w, hfield, h⟩ := bind_eq_ok.mp h
      obtain ⟨value, hu, hvalue⟩ := (hread f List.mem_cons_self r).takes hfield
      obtain ⟨items, x, hw, hitems, hx⟩ := ih (fun g hg => hread g (List.mem_cons_of_mem f hg)) h
      exact ⟨value :: items, _, by simp [ht, hu, hw], .item hs hitems, .field hvalue hx⟩
    | false =>
      rw [if_neg (by decide)] at h
      obtain ⟨b, -, hb, -, ht⟩ := of_nextItem_false hmore
      split at h
      · cases h
      · next hnone =>
        obtain ⟨_, w, hend, h⟩ := bind_eq_ok.mp h
        obtain ⟨⟩ := h
        obtain ⟨b', hb', hu⟩ := of_endOfList hend
        refine ⟨[], b ++ b' ++ [']'], by simp [ht, hu], .close ?_, .done ?_⟩
        · exact fun c hc => (List.mem_append.mp hc).elim (hb c) (hb' c)
        · simpa using hnone

/-- Whatever record a text holds was filled from an object or from a list. -/
theorem of_parse (hread : ∀ f ∈ l.fields, ∀ r, Advances (f.read r)) {text : String}
    (h : l.parse text = .ok r) :
    (∃ members, IsObject members text.toList ∧ Filled l [] l.initial members r) ∨
      ∃ items, IsList items text.toList ∧ FilledInOrder l.fields l.initial items r := by
  obtain ⟨rest, h, hrest⟩ := of_whole h
  obtain ⟨b, c, u, hb, ht, hhead, h⟩ := of_peekSolid_bind h
  split at h
  · obtain ⟨u, rfl⟩ := List.head?_eq_some_iff.mp hhead
    rw [if_neg (by decide)] at h
    obtain ⟨_, w, hw, h⟩ := bind_eq_ok.mp h
    obtain ⟨⟩ := hw
    obtain ⟨items, w, hu, hitems, hr⟩ := filledInOrder_of_itemsFrom hread h
    exact .inr ⟨items, ⟨b, w, rest, hb, hrest, by simp [ht, ← hu], hitems⟩, hr⟩
  · obtain ⟨u, rfl⟩ := List.head?_eq_some_iff.mp hhead
    rw [if_neg (by decide)] at h
    obtain ⟨_, w, hw, h⟩ := bind_eq_ok.mp h
    obtain ⟨⟩ := hw
    obtain ⟨_, w, hw, h⟩ := bind_eq_ok.mp h
    obtain ⟨⟩ := hw
    obtain ⟨members, w, hu, hmembers, hr⟩ := filled_of_membersFrom hread h
    exact .inl ⟨members, ⟨b, w, rest, hb, hrest, by simp [ht, ← hu], hmembers⟩, hr⟩
  · exact absurd h (unexpected_ne_ok _)

/-- An obligatory field takes the next item. -/
theorem FilledInOrder.of_required {f : Field σ} {fields : List (Field σ)} {items : List Text}
    (h : FilledInOrder (f :: fields) r items r') (hrequired : f.requiredInList = true) :
    ∃ value rest r₁, items = value :: rest ∧ Takes (f.read r) value r₁ ∧
      FilledInOrder fields r₁ rest r' := by
  cases h with
  | done hnone => exact absurd (hnone f List.mem_cons_self) (by simp [hrequired])
  | field hvalue hrest => exact ⟨_, _, _, rfl, hvalue, hrest⟩

/-! ## One part of a record -/

/-- One field alone decides a part of the record, by what a reader reads. -/
structure Sets (l : Layout σ) (f : Field σ) (get : σ → α) (read : Reader α) : Prop where
  found : (l.fields.find? fun g => g.name == f.name) = some f
  own : ∀ r value r', Takes (f.read r) value r' → Takes read value (get r')
  other : ∀ g ∈ l.fields, g.name ≠ f.name → ∀ r, Gives (g.read r) fun r' => get r' = get r

variable {f : Field σ} {get : σ → α} {read : Reader α} {members : List (String × Text)}

/-- A field that puts what it reads into a part. -/
theorem Sets.of_update {update : σ → α → σ}
    (hfound : (l.fields.find? fun g => g.name == f.name) = some f)
    (hread : ∀ r, f.read r = do return update r (← read)) (hget : ∀ r a, get (update r a) = a)
    (hother : ∀ g ∈ l.fields, g.name ≠ f.name → ∀ r, Gives (g.read r) fun r' => get r' = get r) :
    l.Sets f get read where
  found := hfound
  own r value r' h := by
    obtain ⟨rest, h⟩ := h
    rw [hread] at h
    obtain ⟨a, u, ha, h⟩ := bind_eq_ok.mp h
    obtain ⟨⟩ := h
    rw [hget]
    exact ⟨rest, ha⟩
  other := hother

/-- A member of unknown name was passed over. -/
theorem Filled.takes_unknown (h : l.Filled seen r members r') :
    ∀ m ∈ members, (∀ f ∈ l.fields, f.name ≠ m.1) → Takes skipValue m.2 () := by
  induction h with
  | done => simp
  | unknown _ hvalue _ ih => exact List.forall_mem_cons.mpr ⟨fun _ => hvalue, ih⟩
  | known hfind _ _ _ ih =>
    refine List.forall_mem_cons.mpr ⟨fun hunknown => ?_, ih⟩
    exact absurd (by simpa using List.find?_some hfind)
      (hunknown _ (List.mem_of_find?_eq_some hfind))

/-- Once its field has been read, a part stays, and the field has no further member. -/
theorem Filled.part_of_seen (hset : l.Sets f get read) (h : l.Filled seen r members r')
    (hseen : f.name ∈ seen) : get r' = get r ∧ ∀ m ∈ members, m.1 ≠ f.name := by
  induction h with
  | done => exact ⟨rfl, by simp⟩
  | unknown hfind _ _ ih =>
    obtain ⟨hpart, hnone⟩ := ih hseen
    refine ⟨hpart, List.forall_mem_cons.mpr ⟨?_, hnone⟩⟩
    rintro rfl
    rw [hset.found] at hfind
    cases hfind
  | @known seen r r₁ r' name value g members hfind hnew hvalue _ ih =>
    obtain ⟨hpart, hnone⟩ := ih (List.mem_cons_of_mem _ hseen)
    have hname : name ≠ f.name := fun h => hnew (h ▸ hseen)
    have hg : g.name = name := by simpa using List.find?_some hfind
    refine ⟨hpart.trans ?_, List.forall_mem_cons.mpr ⟨hname, hnone⟩⟩
    obtain ⟨rest, hvalue⟩ := hvalue
    exact hset.other g (List.mem_of_find?_eq_some hfind) (hg ▸ hname) _ _ _ _ hvalue

/-- A part is what was read from the one member of its field. Without such a member it stays. -/
theorem Filled.part (hset : l.Sets f get read) (h : l.Filled seen r members r')
    (hseen : f.name ∉ seen) :
    (∃ value, (members.filter fun m => m.1 = f.name) = [(f.name, value)] ∧
        Takes read value (get r')) ∨
      f.requiredInObject = false ∧ (∀ m ∈ members, m.1 ≠ f.name) ∧ get r' = get r := by
  induction h with
  | @done seen r habsent =>
    refine .inr ⟨?_, by simp, rfl⟩
    have := List.find?_eq_none.mp habsent f (List.mem_of_find?_eq_some hset.found)
    simpa [hseen] using this
  | @unknown seen r r' name value members hfind _ _ ih =>
    have hname : name ≠ f.name := by
      rintro rfl
      rw [hset.found] at hfind
      cases hfind
    rcases ih hseen with ⟨value, honly, hvalue⟩ | ⟨hrequired, hnone, hpart⟩
    · exact .inl ⟨value, by rwa [List.filter_cons_of_neg (by simpa using hname)], hvalue⟩
    · exact .inr ⟨hrequired, List.forall_mem_cons.mpr ⟨hname, hnone⟩, hpart⟩
  | @known seen r r₁ r' name value g members hfind hnew hvalue hrest ih =>
    have hg : g.name = name := by simpa using List.find?_some hfind
    by_cases hname : name = f.name
    · subst hname
      obtain rfl : g = f := Option.some.inj (hfind.symm.trans hset.found)
      obtain ⟨hpart, hnone⟩ := hrest.part_of_seen hset List.mem_cons_self
      refine .inl ⟨value, ?_, by rw [hpart]; exact hset.own _ _ _ hvalue⟩
      rw [List.filter_cons_of_pos (by simp), List.filter_eq_nil_iff.mpr (by simpa using hnone)]
    · obtain ⟨rest, hvalue⟩ := hvalue
      have hother := hset.other g (List.mem_of_find?_eq_some hfind) (hg ▸ hname) _ _ _ _ hvalue
      rcases ih (by simpa using ⟨Ne.symm hname, hseen⟩) with
        ⟨value, honly, hvalue⟩ | ⟨hrequired, hnone, hpart⟩
      · exact .inl ⟨value, by rwa [List.filter_cons_of_neg (by simpa using hname)], hvalue⟩
      · exact .inr ⟨hrequired, List.forall_mem_cons.mpr ⟨hname, hnone⟩, hpart.trans hother⟩

/-! ## What all fields preserve -/

theorem Filled.preserves {P : σ → Prop} (hfield : ∀ f ∈ l.fields, ∀ r, P r → Gives (f.read r) P)
    (h : l.Filled seen r members r') (hr : P r) : P r' := by
  induction h with
  | done => exact hr
  | unknown _ _ _ ih => exact ih hr
  | known hfind _ hvalue _ ih =>
    obtain ⟨rest, hvalue⟩ := hvalue
    exact ih (hfield _ (List.mem_of_find?_eq_some hfind) _ hr _ _ _ hvalue)

theorem FilledInOrder.preserves {P : σ → Prop} {fields : List (Field σ)} {items : List Text}
    (hfield : ∀ f ∈ fields, ∀ r, P r → Gives (f.read r) P)
    (h : FilledInOrder fields r items r') (hr : P r) : P r' := by
  induction h with
  | done => exact hr
  | field hvalue _ ih =>
    obtain ⟨rest, hvalue⟩ := hvalue
    exact ih (fun g hg => hfield g (List.mem_cons_of_mem _ hg))
      (hfield _ List.mem_cons_self _ hr _ _ _ hvalue)

/-- What reading each field preserves holds of every record that was read. -/
theorem forall_of_parse {P : σ → Prop} (hread : ∀ f ∈ l.fields, ∀ r, Advances (f.read r))
    (hinitial : P l.initial) (hfield : ∀ f ∈ l.fields, ∀ r, P r → Gives (f.read r) P)
    {text : String} (h : l.parse text = .ok r) : P r := by
  rcases of_parse hread h with ⟨members, -, h⟩ | ⟨items, -, h⟩
  · exact h.preserves hfield hinitial
  · exact h.preserves hfield hinitial

end Layout

end BytecodeParity.Json.Reader
