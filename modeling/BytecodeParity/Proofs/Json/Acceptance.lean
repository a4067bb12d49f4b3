import BytecodeParity.Proofs.Json.Skipping
/-!
# Which texts hold records

A record that is read was filled from an object or from a list (`Layout.of_parse`). The converse
holds where the values of all fields are delimited: **whatever members or items fill a record, it is
read from every text they are written in** (`Layout.parse_of_filled`,
`Layout.parse_of_filledInOrder`). So the texts that hold a record are known
(`Layout.parse_eq_ok_iff`).

To fill a record each field needs a member, if it is obligatory, and must not have two
(`Layout.exists_filled`). Blanks behind a value belong to what follows, so they are no part of it
(`Trimmed`).
-/

namespace BytecodeParity.Json.Reader

variable {α σ : Type} {t u rest : Text} {first : Bool} {members : List (String × Text)}
  {items : List Text}

/-! ## Members and items between others -/

theorem MembersText.apart (h : MembersText false members u) (rest : Text) : Apart (u ++ rest) := by
  generalize hfirst : false = first at h
  cases h with
  | close hb =>
    rw [List.append_assoc]
    exact hb.apart (apart_cons.mpr rfl)
  | member hs =>
    subst hfirst
    simp only [List.append_assoc]
    exact hs.apart _

theorem ItemsText.apart (h : ItemsText false items u) (rest : Text) : Apart (u ++ rest) := by
  generalize hfirst : false = first at h
  cases h with
  | close hb =>
    rw [List.append_assoc]
    exact hb.apart (apart_cons.mpr rfl)
  | item hs =>
    subst hfirst
    simp only [List.append_assoc]
    exact hs.apart _

theorem whole_of_blank {read : Reader α} {a : α} (h : read t = .ok (a, rest)) (hrest : Blank rest) :
    whole read t = .ok a := by
  have hnil : rest.dropWhile isBlank = [] := List.dropWhile_eq_nil_iff.mpr hrest
  simp only [whole, h, bind, Except.bind, hnil]
  rfl

namespace Layout

variable {l : Layout σ} {seen : List String} {r r' : σ}

/-- Members that fill a record are read. -/
theorem membersFrom_of_filled (hread : ∀ f ∈ l.fields, ∀ r, Delimited (f.read r)) {fuel : Nat}
    (hmembers : MembersText first members u) (hfilled : Filled l seen r members r')
    (hlt : (u ++ rest).length < fuel) :
    l.membersFrom fuel first seen r (u ++ rest) = .ok (r', rest) := by
  induction hfilled generalizing first u fuel with
  | done habsent =>
    obtain ⟨fuel, rfl⟩ : ∃ n, fuel = n + 1 := ⟨fuel - 1, by omega⟩
    cases hmembers with
    | close hb =>
      rw [List.append_assoc]
      refine bind_eq_ok.mpr ⟨_, _, nextName_false hb, ?_⟩
      rw [if_neg (by decide), habsent]
      rfl
  | unknown hfind hvalue _ ih =>
    obtain ⟨fuel, rfl⟩ : ∃ n, fuel = n + 1 := ⟨fuel - 1, by omega⟩
    cases hmembers with
    | @member _ s written b value t _ _ hs hwritten hb ht =>
      obtain ⟨b', c, w, hb', -, -, rfl, hw⟩ := delimited_skipValue.again hvalue
      have hlt' : (t ++ rest).length < fuel := by
        simp only [List.length_append, List.length_cons] at hlt ⊢
        omega
      simp only [List.append_assoc, List.cons_append]
      refine bind_eq_ok.mpr ⟨true, _, nextName_true hs, ?_⟩
      rw [if_pos rfl]
      refine bind_eq_ok.mpr ⟨_, _, local_string.again hwritten _, ?_⟩
      rw [hfind]
      refine bind_eq_ok.mpr ⟨(), _, colon_eq hb, ?_⟩
      exact bind_eq_ok.mpr ⟨(), t ++ rest, hw b' _ hb' (ht.apart rest), ih ht hlt'⟩
  | known hfind hnew hvalue _ ih =>
    obtain ⟨fuel, rfl⟩ : ∃ n, fuel = n + 1 := ⟨fuel - 1, by omega⟩
    cases hmembers with
    | @member _ s written b value t _ _ hs hwritten hb ht =>
      obtain ⟨b', c, w, hb', -, -, rfl, hw⟩ :=
        (hread _ (List.mem_of_find?_eq_some hfind) _).again hvalue
      have hlt' : (t ++ rest).length < fuel := by
        simp only [List.length_append, List.length_cons] at hlt ⊢
        omega
      simp only [List.append_assoc, List.cons_append]
      refine bind_eq_ok.mpr ⟨true, _, nextName_true hs, ?_⟩
      rw [if_pos rfl]
      refine bind_eq_ok.mpr ⟨_, _, local_string.again hwritten _, ?_⟩
      rw [hfind]
      dsimp only
      rw [if_neg (by simpa using hnew)]
      refine bind_eq_ok.mpr ⟨(), _, colon_eq hb, ?_⟩
      exact bind_eq_ok.mpr ⟨_, t ++ rest, hw b' _ hb' (ht.apart rest), ih ht hlt'⟩

/-- Items that fill the fields of a record are read. -/
theorem itemsFrom_of_filledInOrder {fields : List (Field σ)}
    (hread : ∀ f ∈ fields, ∀ r, Delimited (f.read r)) {read : Nat}
    (hitems : ItemsText (read = 0) items u) (hfilled : FilledInOrder fields r items r') :
    l.itemsFrom fields read r (u ++ rest) = .ok (r', rest) := by
  induction hfilled generalizing read u with
  | @done fields r hnone =>
    cases hitems with
    | close hb =>
      rw [List.append_assoc]
      cases fields with
      | nil => exact bind_eq_ok.mpr ⟨(), rest, endOfList_eq hb, rfl⟩
      | cons f fields =>
        refine bind_eq_ok.mpr ⟨false, _, nextItem_false hb, ?_⟩
        have hany : ((f :: fields).any fun f => f.requiredInList) = false := by simpa using hnone
        rw [if_neg (by decide), hany, if_neg (by decide)]
        exact bind_eq_ok.mpr ⟨(), rest, endOfList_eq blank_nil, rfl⟩
  | @field fields r r₁ r' value f items hvalue _ ih =>
    cases hitems with
    | @item _ s _ t _ hs ht =>
      obtain ⟨b, c, w, hb, hc, hne, rfl, hw⟩ := (hread f List.mem_cons_self r).again hvalue
      rw [show s ++ (b ++ c :: w) ++ t ++ rest = (s ++ b) ++ c :: (w ++ (t ++ rest)) by simp]
      refine bind_eq_ok.mpr ⟨true, _, nextItem_true (hs.append hb) hc hne, ?_⟩
      rw [if_pos rfl]
      refine bind_eq_ok.mpr ⟨r₁, t ++ rest, hw [] _ blank_nil (ht.apart rest), ?_⟩
      exact ih (fun g hg => hread g (List.mem_cons_of_mem f hg)) ht

theorem parse_of_filled (hread : ∀ f ∈ l.fields, ∀ r, Delimited (f.read r)) {text : String}
    (htext : IsObject members text.toList) (h : Filled l [] l.initial members r) :
    l.parse text = .ok r := by
  obtain ⟨b, t, e, hb, he, htext, hmembers⟩ := htext
  rw [Layout.parse, htext, List.append_assoc, List.cons_append]
  refine whole_of_blank ?_ he
  rw [reader, peekSolid_bind hb rfl]
  exact membersFrom_of_filled hread hmembers h (Nat.lt_succ_self _)

theorem parse_of_filledInOrder (hread : ∀ f ∈ l.fields, ∀ r, Delimited (f.read r)) {text : String}
    (htext : IsList items text.toList) (h : FilledInOrder l.fields l.initial items r) :
    l.parse text = .ok r := by
  obtain ⟨b, t, e, hb, he, htext, hitems⟩ := htext
  rw [Layout.parse, htext, List.append_assoc, List.cons_append]
  refine whole_of_blank ?_ he
  rw [reader, peekSolid_bind hb rfl]
  exact itemsFrom_of_filledInOrder hread hitems h

/-- **The texts that hold a record**: objects and lists from which it is filled. -/
theorem parse_eq_ok_iff (hread : ∀ f ∈ l.fields, ∀ r, Delimited (f.read r)) {text : String} :
    l.parse text = .ok r ↔
      (∃ members, IsObject members text.toList ∧ Filled l [] l.initial members r) ∨
        ∃ items, IsList items text.toList ∧ FilledInOrder l.fields l.initial items r := by
  constructor
  · exact of_parse fun f hf r => (hread f hf r).advances
  · rintro (⟨members, htext, h⟩ | ⟨items, htext, h⟩)
    · exact parse_of_filled hread htext h
    · exact parse_of_filledInOrder hread htext h

/-! ## Filling a record -/

/-- **Members fill a record** if its fields take their values, no field has two, and each
obligatory one has its own. -/
theorem exists_filled
    (hknown : ∀ m ∈ members, ∀ f, (l.fields.find? fun f => f.name == m.1) = some f →
      ∀ r, ∃ r', Takes (f.read r) m.2 r')
    (hunknown : ∀ m ∈ members, (l.fields.find? fun f => f.name == m.1) = none →
      Takes skipValue m.2 ())
    (honce : ∀ f ∈ l.fields, (seen ++ members.map Prod.fst).count f.name ≤ 1)
    (hrequired : ∀ f ∈ l.fields, f.requiredInObject = true →
      f.name ∈ seen ++ members.map Prod.fst) :
    ∃ r', Filled l seen r members r' := by
  induction members generalizing seen r with
  | nil =>
    refine ⟨r, .done (List.find?_eq_none.mpr fun f hf => ?_)⟩
    have hseen := hrequired f hf
    simp only [List.map_nil, List.append_nil] at hseen
    simpa using hseen
  | cons m members ih =>
    obtain ⟨name, value⟩ := m
    obtain ⟨hvalue, hknown⟩ := List.forall_mem_cons.mp hknown
    obtain ⟨hskip, hunknown⟩ := List.forall_mem_cons.mp hunknown
    cases hfind : l.fields.find? fun f => f.name == name with
    | none =>
      have hname : ∀ f ∈ l.fields, f.name ≠ name := by simpa using hfind
      have honce' : ∀ f ∈ l.fields, (seen ++ members.map Prod.fst).count f.name ≤ 1 := by
        intro f hf
        have hcount := honce f hf
        rwa [List.map_cons, List.count_append, List.count_cons_of_ne (hname f hf).symm,
          ← List.count_append] at hcount
      have hrequired' : ∀ f ∈ l.fields, f.requiredInObject = true →
          f.name ∈ seen ++ members.map Prod.fst := by
        intro f hf h
        simpa [hname f hf] using hrequired f hf h
      obtain ⟨r', hr'⟩ := ih (r := r) hknown hunknown honce' hrequired'
      exact ⟨r', .unknown hfind (hskip hfind) hr'⟩
    | some f =>
      have hname : f.name = name := by simpa using List.find?_some hfind
      have hcount := honce f (List.mem_of_find?_eq_some hfind)
      have hnew : name ∉ seen := by
        intro hseen
        have hpos : 0 < seen.count name := List.count_pos_iff.mpr hseen
        simp only [List.map_cons, List.count_append, hname, List.count_cons_self] at hcount
        omega
      obtain ⟨r₁, hr₁⟩ := hvalue f hfind r
      have hperm : (seen ++ name :: members.map Prod.fst).Perm
          (name :: seen ++ members.map Prod.fst) := List.perm_middle
      obtain ⟨r', hr'⟩ : ∃ r', Filled l (name :: seen) r₁ members r' :=
        ih hknown hunknown (fun f hf => hperm.count_eq f.name ▸ honce f hf)
          (fun f hf h => hperm.mem_iff.mp (hrequired f hf h))
      exact ⟨r', .known hfind hnew hr₁ hr'⟩

end Layout

/-! ## Blanks behind values -/

theorem Separator.behind_blanks {b s : Text} (hb : Blank b) (hs : Separator false s) :
    Separator false (b ++ s) := by
  obtain ⟨b₁, b₂, h₁, h₂, rfl⟩ := hs
  exact ⟨b ++ b₁, b₂, hb.append h₁, h₂, by simp⟩

theorem MembersText.behind_blanks {b : Text} (hb : Blank b) (h : MembersText false members u) :
    MembersText false members (b ++ u) := by
  generalize hfirst : false = first at h
  cases h with
  | close hb' =>
    rw [← List.append_assoc]
    exact .close (hb.append hb')
  | @member _ s _ _ _ _ _ _ hs hwritten hb' ht =>
    subst hfirst
    simp only [← List.append_assoc]
    exact .member (hs.behind_blanks hb) hwritten hb' ht

theorem ItemsText.behind_blanks {b : Text} (hb : Blank b) (h : ItemsText false items u) :
    ItemsText false items (b ++ u) := by
  generalize hfirst : false = first at h
  cases h with
  | close hb' =>
    rw [← List.append_assoc]
    exact .close (hb.append hb')
  | @item _ s _ _ _ hs ht =>
    subst hfirst
    simp only [← List.append_assoc]
    exact .item (hs.behind_blanks hb) ht

/-- A text is a shorter one and blanks behind it. -/
def Trimmed (t w : Text) : Prop := ∃ b, Blank b ∧ t = w ++ b

theorem Trimmed.refl (t : Text) : Trimmed t t := ⟨[], blank_nil, (List.append_nil t).symm⟩

theorem MembersText.trimmed {trim : String × Text → Text} (h : MembersText first members u)
    (htrim : ∀ m ∈ members, Trimmed m.2 (trim m)) :
    MembersText first (members.map fun m => (m.1, trim m)) u := by
  induction h with
  | close hb => exact .close hb
  | @member first s written b value t name members hs hwritten hb _ ih =>
    obtain ⟨⟨b', hb', hvalue⟩, hrest⟩ := List.forall_mem_cons.mp htrim
    have ht := (ih hrest).behind_blanks hb'
    rw [List.map_cons]
    generalize trim (name, value) = w at hvalue ⊢
    obtain rfl : value = w ++ b' := hvalue
    rw [show s ++ '"' :: written ++ b ++ ':' :: (w ++ b') ++ t =
      s ++ '"' :: written ++ b ++ ':' :: w ++ (b' ++ t) by simp]
    exact .member hs hwritten hb ht

theorem ItemsText.trimmed {items' : List Text} (h : ItemsText first items u)
    (htrim : List.Forall₂ Trimmed items items') : ItemsText first items' u := by
  induction h generalizing items' with
  | close hb =>
    cases htrim
    exact .close hb
  | @item first s value t items hs _ ih =>
    cases htrim with
    | cons hvalue hrest =>
      obtain ⟨b', hb', rfl⟩ := hvalue
      simpa using ItemsText.item hs ((ih hrest).behind_blanks hb')

/-! ## Values without parts in their places -/

/-- A value is read again without the blanks behind it. -/
theorem trimmed_of_parse {j : Json} (h : parse (String.ofList t) = .ok j) :
    ∃ w, Trimmed t w ∧ value depthLimit w = .ok (j, []) := by
  rw [Json.parse, String.toList_ofList] at h
  obtain ⟨rest, h, hrest⟩ := of_whole h
  obtain ⟨b, c, v, hb, -, -, rfl, hv⟩ := delimited_value _ _ _ _ h
  refine ⟨b ++ c :: v, ⟨rest, hrest, by simp⟩, ?_⟩
  simpa using hv b [] hb apart_nil

/-- The values without parts by their first characters. -/
theorem scalar_cases {c : Char} {v : Text} {j : Json} (h : scalar (c :: v) = .ok (j, u)) :
    (c = 'n' ∧ j = .null ∧ word ['u', 'l', 'l'] v = .ok ((), u)) ∨
      (∃ b, j = .bool b) ∨
      (c = '"' ∧ ∃ s, j = .string s ∧ string v = .ok (s, u)) ∨
      ((c = '-' || isDigit c) ∧ ∃ x, j = .number x ∧ number (c :: v) = .ok (x, u)) := by
  obtain ⟨d, w, hd, h⟩ := bind_eq_ok.mp h
  obtain ⟨hhead, rfl⟩ := Prod.mk.inj (Except.ok.inj hd)
  rw [List.head?_cons] at hhead
  split at h <;> cases hhead
  · obtain ⟨_, w, hw, h⟩ := bind_eq_ok.mp h
    obtain ⟨⟩ := hw
    obtain ⟨_, w, hw, h⟩ := bind_eq_ok.mp h
    obtain ⟨⟩ := h
    exact .inl ⟨rfl, rfl, hw⟩
  · obtain ⟨_, w, -, h⟩ := bind_eq_ok.mp h
    obtain ⟨_, w, -, h⟩ := bind_eq_ok.mp h
    obtain ⟨⟩ := h
    exact .inr (.inl ⟨true, rfl⟩)
  · obtain ⟨_, w, -, h⟩ := bind_eq_ok.mp h
    obtain ⟨_, w, -, h⟩ := bind_eq_ok.mp h
    obtain ⟨⟩ := h
    exact .inr (.inl ⟨false, rfl⟩)
  · obtain ⟨_, w, hw, h⟩ := bind_eq_ok.mp h
    obtain ⟨⟩ := hw
    obtain ⟨s, w, hs, h⟩ := bind_eq_ok.mp h
    obtain ⟨⟩ := h
    exact .inr (.inr (.inl ⟨rfl, s, rfl, hs⟩))
  · split at h
    · next hc =>
      obtain ⟨x, w, hx, h⟩ := bind_eq_ok.mp h
      obtain ⟨⟩ := h
      exact .inr (.inr (.inr ⟨hc, x, rfl, hx⟩))
    · cases h

/-- What is neither a list nor an object stands behind blanks without parts. -/
theorem scalar_of_value {depth : Nat} {j : Json} (h : value depth t = .ok (j, u))
    (hlist : ∀ items, j ≠ .array items) (hobject : ∀ members, j ≠ .object members) :
    ∃ b c v, Blank b ∧ isBlank c = false ∧ t = b ++ c :: v ∧ scalar (c :: v) = .ok (j, u) := by
  rcases blank_or_solid t with ht | ⟨b, c, v, hb, hc, rfl⟩
  · cases depth <;> rw [value, peekSolid_bind_of_blank ht] at h <;> cases h
  refine ⟨b, c, v, hb, hc, rfl, ?_⟩
  cases depth with
  | zero =>
    rw [value, peekSolid_bind hb hc] at h
    generalize some c = d at h
    split at h
    · cases h
    · cases h
    · exact h
  | succ depth =>
    rw [value, peekSolid_bind hb hc] at h
    generalize some c = d at h
    split at h
    · obtain ⟨_, w, -, h⟩ := bind_eq_ok.mp h
      obtain ⟨items, w, -, h⟩ := bind_eq_ok.mp h
      obtain ⟨⟩ := h
      exact absurd rfl (hlist items)
    · obtain ⟨_, w, -, h⟩ := bind_eq_ok.mp h
      obtain ⟨members, w, -, h⟩ := bind_eq_ok.mp h
      obtain ⟨⟩ := h
      exact absurd rfl (hobject members)
    · exact h

/-- Null is taken where it may stand for a value. -/
theorem takes_none_of_parse {r : Reader α} (h : parse (String.ofList t) = .ok .null) :
    ∃ w, Trimmed t w ∧ Takes (optional r) w none := by
  obtain ⟨w, hw, h⟩ := trimmed_of_parse h
  refine ⟨w, hw, [], ?_⟩
  obtain ⟨b, c, v, hb, hc, rfl, hscalar⟩ := scalar_of_value h (by simp) (by simp)
  obtain ⟨rfl, -, hword⟩ | ⟨_, ⟨⟩⟩ | ⟨-, _, ⟨⟩, -⟩ | ⟨-, _, ⟨⟩, -⟩ := scalar_cases hscalar
  rw [List.append_nil, optional, peekSolid_bind hb hc]
  exact bind_eq_ok.mpr ⟨(), v, rfl, bind_eq_ok.mpr ⟨(), [], hword, rfl⟩⟩

/-- A string is taken by the readers of strings. -/
theorem takes_text_of_parse {s : String} (expected : String)
    (h : parse (String.ofList t) = .ok (.string s)) :
    ∃ w, Trimmed t w ∧ Takes (text expected) w s := by
  obtain ⟨w, hw, h⟩ := trimmed_of_parse h
  refine ⟨w, hw, [], ?_⟩
  obtain ⟨b, c, v, hb, hc, rfl, hscalar⟩ := scalar_of_value h (by simp) (by simp)
  obtain ⟨-, ⟨⟩, -⟩ | ⟨_, ⟨⟩⟩ | ⟨rfl, s, ⟨⟩, hs⟩ | ⟨-, _, ⟨⟩, -⟩ := scalar_cases hscalar
  rw [List.append_nil, text, peekSolid_bind hb hc]
  exact bind_eq_ok.mpr ⟨(), v, rfl, hs⟩

/-- A string is taken where it may stand for a value. -/
theorem takes_some_string_of_parse {s : String} (depth : Nat)
    (h : parse (String.ofList t) = .ok (.string s)) :
    ∃ w, Trimmed t w ∧ Takes (optional (value depth)) w (some (.string s)) := by
  obtain ⟨w, hw, h⟩ := trimmed_of_parse h
  refine ⟨w, hw, [], ?_⟩
  obtain ⟨b, c, v, hb, hc, rfl, hscalar⟩ := scalar_of_value h (by simp) (by simp)
  obtain ⟨-, ⟨⟩, -⟩ | ⟨_, ⟨⟩⟩ | ⟨rfl, s, ⟨⟩, -⟩ | ⟨-, _, ⟨⟩, -⟩ := scalar_cases hscalar
  have hvalue : value depth ('"' :: v) = .ok (.string s, []) := by
    cases depth <;> (rw [value, peekSolid_bind_cons hc]; exact hscalar)
  rw [List.append_nil, optional, peekSolid_bind hb hc]
  exact bind_eq_ok.mpr ⟨_, [], hvalue, rfl⟩

/-- A natural number is taken by the reader of numbers. -/
theorem takes_nat64_of_parse {n : Nat} (h : parse (String.ofList t) = .ok (.number (.integer n))) :
    ∃ w, Trimmed t w ∧ Takes nat64 w n := by
  obtain ⟨w, hw, h⟩ := trimmed_of_parse h
  refine ⟨w, hw, [], ?_⟩
  obtain ⟨b, c, v, hb, hc, rfl, hscalar⟩ := scalar_of_value h (by simp) (by simp)
  obtain ⟨-, ⟨⟩, -⟩ | ⟨_, ⟨⟩⟩ | ⟨-, _, ⟨⟩, -⟩ | ⟨hdigit, x, ⟨⟩, hx⟩ := scalar_cases hscalar
  rw [List.append_nil, nat64, peekSolid_bind hb hc]
  dsimp only
  rw [if_pos hdigit]
  exact bind_eq_ok.mpr ⟨_, [], hx, congrFun (if_pos (Int.natCast_nonneg n)) []⟩

end BytecodeParity.Json.Reader
