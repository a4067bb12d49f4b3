import BytecodeParity.AddressBook
import BytecodeParity.Proofs.Contract.Registry
/-!
# Entries without an address

An address book lists contracts that are not deployed yet, and says so in two ways: the entry is
blank, or it is the placeholder. `AddressBook.deployedAddress?` reads both as no address. The
registry of a fork is built from the same entries by `Role.value?`, which asks something else: is
there anything left of the entry in raw form? A blank entry leaves nothing. The placeholder leaves
three letters, and they are taken for a value. So a role is in one of three cases, by its entry:

    absent or blank    no address     the default, or nothing
    the placeholder    no address     the letters of the placeholder (`value?_of_pending`)
    anything else      an address     what the entry gives

**Entries of contracts that are not deployed may be dropped exactly if none of them is the
placeholder of a role** (`ofDeployment_deployedContracts_iff`). Two lists of values cannot be told
apart at one place there, since a value that is left out moves the others up. The letters of the
placeholder are counted instead (`count_values_lt`).
-/

namespace BytecodeParity

/-! ## Deployed contracts -/

namespace OrderedMap

variable {κ α : Type} [DecidableEq κ]

/-- Dropping entries by their keys drops all that is found under these keys. -/
theorem find?_filter (p : κ → Bool) (k : κ) (m : OrderedMap κ α) :
    find? k (m.filter fun e => p e.1) = if p k then find? k m else none := by
  induction m with
  | nil => simp
  | cons e m ih =>
    obtain ⟨j, b⟩ := e
    rw [List.filter_cons, find?]
    by_cases hk : k = j
    · subst hk
      by_cases hkept : p k = true
      · simp [hkept, find?]
      · simp [hkept, ih]
    · by_cases hkept : p j = true
      · simp [hkept, hk, find?, ih]
      · simp [hkept, hk, ih]

end OrderedMap

namespace AddressBook

/-- The address that an entry tells, if it tells one. -/
def address? (entry : String) : Option String :=
  let address := String.ofList (Text.trim entry.toList)
  if address = "" ∨ address = placeholder then none else some address

theorem deployedAddress?_eq (book : AddressBook) (name : String) :
    book.deployedAddress? name = (OrderedMap.find? name book.contracts).bind address? := rfl

/-- The entries of the contracts that are deployed. -/
def deployedContracts (book : AddressBook) : OrderedMap String String :=
  book.contracts.filter fun e => (book.deployedAddress? e.1).isSome

theorem find?_deployedContracts (book : AddressBook) (name : String) :
    OrderedMap.find? name book.deployedContracts =
      (OrderedMap.find? name book.contracts).filter fun entry => (address? entry).isSome := by
  rw [deployedContracts, OrderedMap.find?_filter fun key => (book.deployedAddress? key).isSome,
    deployedAddress?_eq]
  cases OrderedMap.find? name book.contracts with
  | none => simp
  | some entry => simp [Option.filter]

end AddressBook

/-! ## The value of a role -/

namespace Role

open AddressBook

variable {book : AddressBook} {contracts : OrderedMap String String} {poolHash : Text}
  {role : Role} {key entry : String}

/-- What is taken for a value where the placeholder stands. -/
def stray : Text := "tba".toList

theorem stray_ne_nil : stray ≠ [] := by
  decide +kernel

theorem raw_stray : Hex.raw stray = stray := by
  decide +kernel

/-- **An entry without an address gives nothing, unless it is the placeholder.** -/
theorem given?_of_address?_eq_none (h : address? entry = none) :
    given? entry =
      if String.ofList (Text.trim entry.toList) = placeholder then some stray else none := by
  have hraw : ∀ {s : String}, String.ofList (Text.trim entry.toList) = s →
      Hex.raw entry.toList = Text.lower (Hex.body s.toList) := by
    intro s hs
    rw [Hex.raw, ← hs, String.toList_ofList]
  rw [address?] at h
  split at h
  next hentry =>
    rcases hentry with hblank | hplace
    · have hne : String.ofList (Text.trim entry.toList) ≠ placeholder := by
        rw [hblank]
        decide
      have hnil : Hex.raw entry.toList = [] := hraw hblank
      rw [given?, hnil, if_neg hne]
      rfl
    · have hletters : Hex.raw entry.toList = stray := by
        rw [hraw hplace]
        decide +kernel
      rw [given?, hletters, if_pos hplace]
      simp [stray_ne_nil]
  next => cases h

/-- The entry of a role is the placeholder. -/
def Pending (book : AddressBook) (role : Role) : Prop :=
  ∃ key entry, role.addressKey? = some key ∧ OrderedMap.find? key book.contracts = some entry ∧
    String.ofList (Text.trim entry.toList) = placeholder

/-- **The placeholder is taken for a value**, and without it the role has its default. -/
theorem value?_of_pending (poolHash : Text) (h : role.Pending book) :
    value? book.contracts poolHash role = some stray ∧
      value? book.deployedContracts poolHash role = role.default? := by
  obtain ⟨key, entry, hkey, hentry, hplace⟩ := h
  have hnone : address? entry = none := if_pos (Or.inr hplace)
  constructor
  · rw [value?_of_key hkey, hentry, Option.bind_some, given?_of_address?_eq_none hnone,
      if_pos hplace]
    rfl
  · rw [value?_of_key hkey, find?_deployedContracts, hentry]
    simp [Option.filter, hnone]

/-- **Any other entry may be dropped if it tells no address.** -/
theorem value?_of_not_pending (h : ¬ role.Pending book) :
    value? book.contracts poolHash role = value? book.deployedContracts poolHash role := by
  cases hkey : role.addressKey? with
  | none => exact value?_of_no_key hkey _
  | some key =>
    rw [value?_of_key hkey, value?_of_key hkey, find?_deployedContracts]
    cases hentry : OrderedMap.find? key book.contracts with
    | none => rfl
    | some entry =>
      cases haddress : address? entry with
      | some address => simp [Option.filter, haddress]
      | none =>
        have hplace : String.ofList (Text.trim entry.toList) ≠ placeholder :=
          fun hplace => h ⟨key, entry, hkey, hentry, hplace⟩
        simp [Option.filter, haddress, given?_of_address?_eq_none haddress, hplace]

/-- A role whose contract is not deployed has its default once the entry is dropped. -/
theorem value?_deployedContracts_of_none (hkey : role.addressKey? = some key)
    (hnone : book.deployedAddress? key = none) :
    value? book.deployedContracts poolHash role = role.default? := by
  rw [value?_of_key hkey, find?_deployedContracts]
  rw [deployedAddress?_eq] at hnone
  cases hentry : OrderedMap.find? key book.contracts with
  | none => rfl
  | some entry =>
    rw [hentry, Option.bind_some] at hnone
    simp [Option.filter, hnone]

/-- Every role with an entry of its own is embedded somewhere. -/
theorem exists_mem_roles (h : role.addressKey? = some key) : ∃ c : Contract, role ∈ c.roles := by
  cases role with
  | factory => exact ⟨.factory, by decide⟩
  | wrappedEther => exact ⟨.quoter, by decide⟩
  | positionManager => exact ⟨.staker, by decide⟩
  | descriptorProxy => exact ⟨.positionManager, by decide⟩
  | descriptorLibrary => exact ⟨.positionDescriptor, by decide⟩
  | permit => exact ⟨.universalRouter, by decide⟩
  | poolInitCodeHash => cases h
  | zeroPairInitCodeHash => cases h

/-- No default reads like the placeholder. -/
theorem raw_default?_ne_stray (role : Role) : ∀ v ∈ role.default?, Hex.raw v ≠ stray := by
  cases role <;> decide +kernel

end Role

/-! ## Registries -/

namespace Registry

open AddressBook

variable {book : AddressBook} {contracts : OrderedMap String String} {poolHash : Text}
  {role : Role}

theorem countP_lt_countP {α : Type} {p q : α → Bool} {l : List α} (h : ∀ x ∈ l, p x → q x) {a : α}
    (ha : a ∈ l) (hp : p a = false) (hq : q a = true) : l.countP p < l.countP q := by
  obtain ⟨s, t, rfl⟩ := List.append_of_mem ha
  have hs : s.countP p ≤ s.countP q :=
    List.countP_mono_left fun x hx => h x (List.mem_append_left _ hx)
  have ht : t.countP p ≤ t.countP q :=
    List.countP_mono_left fun x hx => h x (List.mem_append_right _ (List.mem_cons_of_mem a hx))
  rw [List.countP_append, List.countP_append, List.countP_cons_of_pos hq,
    List.countP_cons_of_neg (by simp [hp])]
  omega

/-- Whether a role is listed with the letters of the placeholder. -/
def listsStray (contracts : OrderedMap String String) (poolHash : Text) (role : Role) : Bool :=
  ((role.value? contracts poolHash).map fun v => Hex.raw v == Role.stray).getD false

/-- How often the letters of the placeholder are listed. -/
theorem count_stray (c : Contract) :
    ((ofDeployment contracts poolHash).get c.name).count Role.stray =
      c.roles.countP (listsStray contracts poolHash) := by
  -- What is filtered out is empty, and the letters are not.
  have hkept : ∀ values : List Text,
      (values.filter fun v => !v.isEmpty).count Role.stray = values.count Role.stray :=
    fun values => List.count_filter (by simp [Role.stray_ne_nil])
  rw [get_ofDeployment, storedForm, hkept, List.count_eq_countP, List.countP_map,
    List.countP_filterMap]
  rfl

theorem listsStray_of_pending (poolHash : Text) (h : role.Pending book) :
    listsStray book.deployedContracts poolHash role = false ∧
      listsStray book.contracts poolHash role = true := by
  obtain ⟨hstray, hdefault⟩ := Role.value?_of_pending poolHash h
  rw [listsStray, listsStray, hstray, hdefault]
  constructor
  · cases hd : role.default? with
    | none => rfl
    | some v => simpa using Role.raw_default?_ne_stray role v hd
  · simp [Role.raw_stray]

/-- **With the placeholder of a role, its letters are listed more often than without.** -/
theorem count_values_lt (poolHash : Text) {c : Contract} (hrole : role ∈ c.roles)
    (h : role.Pending book) :
    ((ofDeployment book.deployedContracts poolHash).get c.name).count Role.stray <
      ((ofDeployment book.contracts poolHash).get c.name).count Role.stray := by
  rw [count_stray, count_stray]
  obtain ⟨hwithout, hwith⟩ := listsStray_of_pending poolHash h
  refine countP_lt_countP (fun other _ hother => ?_) hrole hwithout hwith
  by_cases hpending : other.Pending book
  · exact (listsStray_of_pending poolHash hpending).2
  · rw [listsStray, Role.value?_of_not_pending hpending]
    exact hother

/-- **When contracts that are not deployed count as not configured.** Dropping their entries leaves
the registry as it is exactly if no role's entry is the placeholder. The placeholder is listed as a
value, where the role would have its default or be left out; any other entry that tells no address
leaves its role open. -/
theorem ofDeployment_deployedContracts_iff (book : AddressBook) (poolHash : Text) :
    (ofDeployment book.contracts poolHash = ofDeployment book.deployedContracts poolHash ↔
      ∀ role : Role, ¬ role.Pending book) ∧
    (∀ role : Role, role.Pending book →
      role.value? book.contracts poolHash = some "tba".toList ∧
        role.value? book.deployedContracts poolHash = role.default?) ∧
    ∀ (role : Role) (key : String), role.addressKey? = some key →
      book.deployedAddress? key = none → ¬ role.Pending book →
        role.value? book.contracts poolHash = role.default? := by
  refine ⟨⟨fun heq role hpending => ?_, fun h => ?_⟩,
    fun role h => Role.value?_of_pending poolHash h, fun role key hkey hnone h => ?_⟩
  · obtain ⟨key, _, hkey, _⟩ := id hpending
    obtain ⟨c, hc⟩ := Role.exists_mem_roles hkey
    have hlt := count_values_lt poolHash hc hpending
    rw [heq] at hlt
    exact absurd hlt (Nat.lt_irrefl _)
  · have hvalues : Role.value? book.contracts poolHash =
        Role.value? book.deployedContracts poolHash :=
      funext fun role => Role.value?_of_not_pending (h role)
    rw [ofDeployment, ofDeployment, hvalues]
  · rw [Role.value?_of_not_pending h]
    exact Role.value?_deployedContracts_of_none hkey hnone

/-- A fork whose wrapped ether is not deployed yet. Its quoter is listed with the letters of the
placeholder, not with wrapped ether on rollups. -/
theorem ofDeployment_deployedContracts_ne :
    let book := { AddressBook.empty with contracts := [("WETH9", "TBA")] }
    book.deployedAddress? "WETH9" = none ∧
      ofDeployment book.contracts "ff".toList ≠ ofDeployment book.deployedContracts "ff".toList ∧
      (ofDeployment book.contracts "ff".toList).get "QuoterV2" = ["tba".toList, "ff".toList] := by
  intro book
  have hpending : Role.wrappedEther.Pending book :=
    ⟨"WETH9", "TBA", rfl, by decide +kernel, by decide +kernel⟩
  refine ⟨by decide +kernel, fun heq => ?_, by decide +kernel⟩
  exact (ofDeployment_deployedContracts_iff book "ff".toList).1.mp heq .wrappedEther hpending

end Registry

end BytecodeParity
