import BytecodeParity.Contract.Immutables
import BytecodeParity.Proofs.Hex.Digits
/-!
# What a registry lists

Both registries are built by setting the values of one contract after the other, and what counts
of them afterwards is what `get` finds under a name. Names tell contracts apart, so no entry is
overwritten and `get` finds what was set (`get_foldl_insert`): for the deployed fork the values of
the contract's roles, in stored form (`get_ofDeployment`), for the canonical deployment its fixed
values (`get_canonical`).
-/

namespace BytecodeParity

namespace WellKnown

/-- What holds of the characters of a literal holds of its text. The literal is compared with the
characters, so that its bytes need not be decoded. -/
theorem of_literal {P : Text → Prop} {s : String} {t : Text} (hs : s = String.ofList t)
    (h : P t) : P s.toList := by
  rw [hs, String.toList_ofList]
  exact h

theorem stored_poolInitCodeHash : Hex.Stored poolInitCodeHash :=
  of_literal rfl (by decide)

/-- The values that canonical contracts embed. -/
def canonical : List Text :=
  [factory, wrappedEther, tokenDescriptor, descriptorLibrary, positionManager, pairFactory,
    poolManager, singletonPositionManager, permit, canonicalPoolInitCodeHash,
    canonicalPairInitCodeHash]

/-- All of them are in stored form and as long as an address at least. -/
theorem stored_canonical : ∀ v ∈ canonical, Hex.Stored v ∧ 40 ≤ v.length := by
  have key : ∀ {s : String} {t : Text}, s = String.ofList t → Hex.Stored t ∧ 40 ≤ t.length →
      Hex.Stored s.toList ∧ 40 ≤ s.toList.length := fun hs h =>
    of_literal (P := fun v => Hex.Stored v ∧ 40 ≤ v.length) hs h
  simp only [canonical, List.forall_mem_cons]
  exact ⟨key rfl (by decide), key rfl (by decide), key rfl (by decide), key rfl (by decide),
    key rfl (by decide), key rfl (by decide), key rfl (by decide), key rfl (by decide),
    key rfl (by decide), key rfl (by decide), key rfl (by decide), List.forall_mem_nil _⟩

end WellKnown

namespace Contract

theorem canonicalValues_subset (c : Contract) : c.canonicalValues ⊆ WellKnown.canonical := by
  cases c <;> simp [canonicalValues, WellKnown.canonical]

theorem stored_of_mem_canonicalValues (c : Contract) {v : Text} (h : v ∈ c.canonicalValues) :
    Hex.Stored v ∧ 40 ≤ v.length :=
  WellKnown.stored_canonical v (c.canonicalValues_subset h)

theorem mem_all (c : Contract) : c ∈ all := by
  cases c <;> decide

/-- The name of a contract leads back to it. -/
theorem ofName?_name (c : Contract) : ofName? c.name = some c := by
  cases c <;> decide +kernel

/-- A name is that of its contract, or of none. -/
theorem eq_name_or_forall_ne (name : String) :
    (∃ c : Contract, name = c.name) ∨ ∀ c : Contract, name ≠ c.name := by
  by_cases h : ∃ c : Contract, name = c.name
  · exact Or.inl h
  · exact Or.inr fun c hc => h ⟨c, hc⟩

theorem name_injective {c e : Contract} (h : c.name = e.name) : c = e := by
  have := ofName?_name c
  rw [h, ofName?_name] at this
  exact (Option.some.inj this).symm

end Contract

/-! ## The value of a role -/

namespace Role

variable {contracts : OrderedMap String String} {poolHash : Text} {role : Role} {key : String}

/-- The value that an entry gives to its role. -/
def given? (entry : String) : Option Text :=
  let value := Hex.raw entry.toList
  if value.isEmpty then none else some value

/-- A role with an entry of its own takes what the entry gives, or else its default. -/
theorem value?_of_key (h : role.addressKey? = some key) :
    value? contracts poolHash role =
      ((OrderedMap.find? key contracts).bind given?).or role.default? := by
  have hrole : role ≠ .poolInitCodeHash := by
    rintro rfl
    cases h
  rw [value?, if_neg hrole, h]
  exact Option.orElse_eq_or

/-- The two hashes have no entry to look at. -/
theorem value?_of_no_key (h : role.addressKey? = none) (contracts' : OrderedMap String String) :
    value? contracts poolHash role = value? contracts' poolHash role := by
  rw [value?, value?, h]
  rfl

end Role

namespace Registry

variable {contracts : OrderedMap String String} {poolHash : Text}

theorem get_insert_self (name : String) (values : List Text) (r : Registry) :
    (r.insert name values).get name = storedForm values := by
  rw [get, insert, OrderedMap.find?_insert_self, Option.getD_some]

theorem get_insert_of_ne {name other : String} (h : other ≠ name) (values : List Text)
    (r : Registry) : (r.insert name values).get other = r.get other := by
  rw [get, insert, OrderedMap.find?_insert_of_ne h, get]

/-- **Setting contract after contract keeps every entry.** -/
theorem get_foldl_insert (f : Contract → List Text) (cs : List Contract) (r : Registry)
    (c : Contract) :
    (cs.foldl (fun r c => r.insert c.name (f c)) r).get c.name =
      if c ∈ cs then storedForm (f c) else r.get c.name := by
  induction cs generalizing r with
  | nil => rw [List.foldl_nil, if_neg List.not_mem_nil]
  | cons e cs ih =>
    rw [List.foldl_cons, ih]
    rcases eq_or_ne c e with rfl | hne
    · simp [get_insert_self]
    · rw [get_insert_of_ne (mt Contract.name_injective hne)]
      simp [hne]

theorem get_empty (name : String) : empty.get name = [] := rfl

/-- Under any other name nothing is set. -/
theorem get_foldl_insert_of_ne (f : Contract → List Text) (cs : List Contract) (r : Registry)
    {name : String} (h : ∀ c : Contract, name ≠ c.name) :
    (cs.foldl (fun r c => r.insert c.name (f c)) r).get name = r.get name := by
  induction cs generalizing r with
  | nil => rfl
  | cons c cs ih => rw [List.foldl_cons, ih, get_insert_of_ne (h c)]

/-- Nothing that a registry lists is empty. -/
theorem ne_nil_of_mem_get {r : Registry} {name : String} {v : Text} (h : v ∈ r.get name) :
    v ≠ [] := by
  unfold get at h
  cases hfind : OrderedMap.find? name r.entries with
  | none =>
    rw [hfind] at h
    cases h
  | some values =>
    rw [hfind] at h
    exact r.nonempty _ (OrderedMap.mem_of_find? hfind) v h

/-- **The registry of a fork lists the values of a contract's roles.** -/
theorem get_ofDeployment (contracts : OrderedMap String String) (poolHash : Text) (c : Contract) :
    (ofDeployment contracts poolHash).get c.name =
      storedForm (c.roles.filterMap (Role.value? contracts poolHash)) := by
  rw [ofDeployment, get_foldl_insert]
  split
  · rfl
  next h =>
    -- A contract without roles is not listed, which comes to the same as an empty list.
    have hroles : c.roles = [] := by
      by_contra hne
      exact h (List.mem_filter.mpr ⟨c.mem_all, by simpa using hne⟩)
    rw [hroles, get_empty]
    rfl

/-- Values that are in stored form already are stored as they are. -/
theorem storedForm_eq_self {values : List Text} (h : ∀ v ∈ values, Hex.Stored v) :
    storedForm values = values := by
  have hraw : values.map Hex.raw = values :=
    (List.map_congr_left fun v hv => (h v hv).raw_eq).trans (List.map_id values)
  rw [storedForm, hraw, List.filter_eq_self]
  exact fun v hv => by simpa using (h v hv).ne_nil

/-- **The registry of the canonical deployment lists what each contract embeds.** -/
theorem get_canonical (c : Contract) : canonical.get c.name = c.canonicalValues := by
  rw [canonical, get_foldl_insert, if_pos c.mem_all]
  exact storedForm_eq_self fun v hv => (c.stored_of_mem_canonicalValues hv).1

/-- Under any name, the canonical deployment lists digits as long as an address at least. -/
theorem value_of_mem_canonical {name : String} {v : Text} (h : v ∈ canonical.get name) :
    Hex.Value v ∧ 40 ≤ v.length := by
  rcases Contract.eq_name_or_forall_ne name with ⟨c, rfl⟩ | hne
  · rw [get_canonical] at h
    obtain ⟨hstored, hlong⟩ := c.stored_of_mem_canonicalValues h
    exact ⟨hstored.value, hlong⟩
  · rw [canonical, get_foldl_insert_of_ne _ _ _ hne, get_empty] at h
    cases h

/-! ## The pool init code hash -/

/-- The values of a contract that do not depend on the pool init code hash. -/
def otherValues (contracts : OrderedMap String String) (c : Contract) : List Text :=
  storedForm ((c.roles.filter (· ≠ .poolInitCodeHash)).filterMap (Role.value? contracts []))

/-- Only one role takes its value from the hash. -/
theorem value?_of_ne {role : Role} (h : role ≠ .poolInitCodeHash) :
    Role.value? contracts poolHash role = Role.value? contracts [] role := by
  rw [Role.value?, Role.value?, if_neg h, if_neg h]

/-- A contract that does not embed the hash lists the same values whatever it is. -/
theorem get_ofDeployment_of_notMem {c : Contract} (h : Role.poolInitCodeHash ∉ c.roles) :
    (ofDeployment contracts poolHash).get c.name = otherValues contracts c := by
  have hfilter : c.roles.filter (· ≠ .poolInitCodeHash) = c.roles :=
    List.filter_eq_self.mpr fun role hrole => decide_eq_true (ne_of_mem_of_not_mem hrole h)
  rw [get_ofDeployment, otherValues, hfilter]
  congr 1
  exact List.filterMap_congr fun role hrole => value?_of_ne (ne_of_mem_of_not_mem hrole h)

theorem mem_storedForm {values : List Text} {v : Text} :
    v ∈ storedForm values ↔ v ≠ [] ∧ ∃ w ∈ values, Hex.raw w = v := by
  simp [storedForm, and_comm]

/-- A contract that embeds the hash lists it, and what does not depend on it. -/
theorem mem_get_ofDeployment {c : Contract} (hc : Role.poolInitCodeHash ∈ c.roles)
    (hhash : Hex.Stored poolHash) {v : Text} :
    v ∈ (ofDeployment contracts poolHash).get c.name ↔
      v ∈ otherValues contracts c ∨ v = poolHash := by
  rw [get_ofDeployment, otherValues, mem_storedForm, mem_storedForm]
  simp only [List.mem_filterMap, List.mem_filter, decide_eq_true_eq]
  have hvalue : Role.value? contracts poolHash .poolInitCodeHash = some poolHash :=
    congrArg some hhash.raw_eq
  constructor
  · rintro ⟨hne, w, ⟨role, hrole, hw⟩, hv⟩
    by_cases hp : role = .poolInitCodeHash
    · rw [hp, hvalue, Option.some.injEq] at hw
      rw [← hw, hhash.raw_eq] at hv
      exact Or.inr hv.symm
    · exact Or.inl ⟨hne, w, ⟨role, ⟨hrole, hp⟩, value?_of_ne hp ▸ hw⟩, hv⟩
  · rintro (⟨hne, w, ⟨role, ⟨hrole, hp⟩, hw⟩, hv⟩ | rfl)
    · exact ⟨hne, w, ⟨role, hrole, value?_of_ne hp ▸ hw⟩, hv⟩
    · exact ⟨hhash.ne_nil, v, ⟨_, hc, hvalue⟩, hhash.raw_eq⟩

/-- No contract embeds more than six values. -/
theorem length_otherValues_le (contracts : OrderedMap String String) (c : Contract) :
    (otherValues contracts c).length ≤ 6 := by
  have hroles : c.roles.length ≤ 6 := by
    cases c <;> decide
  calc (otherValues contracts c).length
      ≤ ((c.roles.filter (· ≠ .poolInitCodeHash)).filterMap (Role.value? contracts [])).length := by
        rw [otherValues, storedForm]
        exact (List.length_filter_le _ _).trans (List.length_map _).le
    _ ≤ (c.roles.filter (· ≠ .poolInitCodeHash)).length := List.length_filterMap_le _ _
    _ ≤ c.roles.length := List.length_filter_le _ _
    _ ≤ 6 := hroles

end Registry

end BytecodeParity
