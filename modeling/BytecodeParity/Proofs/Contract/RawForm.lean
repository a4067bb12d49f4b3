import BytecodeParity.Proofs.Contract.Undeployed
import BytecodeParity.Proofs.Deployment
/-!
# Values that are no digits

A registry is searched in codes, and it is documented to list nothing but digits in small letters.
What it lists of a fork comes from two sources. The pool init code hash is looked at when a
deployment is settled and is digits from then on (`Deployment.of_resolve`). The entries of the
address book are looked at by nobody: a malformed one is mentioned in the log and kept.

Bringing a text into raw form makes its letters small and takes blanks and a mark off, once when the
value of a role is chosen and once more when it is stored. It does not make digits of anything else.
So **what is listed is small and not empty whatever the book says, and it is digits exactly if the
entries are**, after these two turns (`listed_inRawForm_iff`). The placeholder of a contract that is
not deployed is one entry that is not.
-/

namespace BytecodeParity

open Hex

variable {contracts : OrderedMap String String} {poolHash v w : Text} {key entry : String}

namespace Role

variable {role : Role}

theorem given?_eq_some_iff : given? entry = some w ↔ raw entry.toList = w ∧ w ≠ [] := by
  unfold given?
  dsimp only
  by_cases hnil : raw entry.toList = []
  · simp only [hnil, List.isEmpty_nil, if_true, reduceCtorEq, false_iff, not_and, not_not]
    exact Eq.symm
  · simp only [List.isEmpty_iff, hnil, if_false, Option.some.injEq]
    exact ⟨fun h => ⟨h, h ▸ hnil⟩, And.left⟩

/-- The value of a role comes from its entry, or is its default, or is the pool init code hash. -/
theorem value?_cases (h : role.value? contracts poolHash = some w) :
    (∃ key entry, role.addressKey? = some key ∧ OrderedMap.find? key contracts = some entry ∧
        w = raw entry.toList) ∨
      role.default? = some w ∨ w = raw poolHash := by
  cases hkey : role.addressKey? with
  | none =>
    unfold value? at h
    simp only [hkey] at h
    split at h
    · exact .inr (.inr (Option.some.inj h).symm)
    · exact .inr (.inl h)
  | some key =>
    rw [value?_of_key hkey, Option.or_eq_some_iff] at h
    rcases h with hgiven | ⟨-, hdefault⟩
    · obtain ⟨entry, hentry, hvalue⟩ := Option.bind_eq_some_iff.mp hgiven
      exact .inl ⟨key, entry, rfl, hentry, (given?_eq_some_iff.mp hvalue).1.symm⟩
    · exact .inr (.inl hdefault)

/-- An entry of which something is left gives its role that as a value. -/
theorem value?_of_entry (hkey : role.addressKey? = some key)
    (hentry : OrderedMap.find? key contracts = some entry) (hne : raw entry.toList ≠ []) :
    role.value? contracts poolHash = some (raw entry.toList) := by
  rw [value?_of_key hkey, hentry, Option.bind_some, given?_eq_some_iff.mpr ⟨rfl, hne⟩]
  rfl

theorem stored_default? (role : Role) : ∀ v ∈ role.default?, Stored v := by
  cases role <;> decide +kernel

end Role

namespace Registry

/-- The form in which a value is to be listed: digits in small letters, one or more, with no mark in
front. -/
structure InRawForm (v : Text) : Prop where
  ne_nil : v ≠ []
  digits : Digits v
  small : Text.lower v = v
  unmarked : splitMark v = ([], v)

/-- What a fork's contract lists is the value of one of its roles, in raw form. -/
theorem mem_get_iff {c : Contract} :
    v ∈ (ofDeployment contracts poolHash).get c.name ↔
      v ≠ [] ∧ ∃ role ∈ c.roles, ∃ w, role.value? contracts poolHash = some w ∧ raw w = v := by
  rw [get_ofDeployment, mem_storedForm]
  constructor
  · rintro ⟨hne, w, hw, hraw⟩
    obtain ⟨role, hrole, hvalue⟩ := List.mem_filterMap.mp hw
    exact ⟨hne, role, hrole, w, hvalue, hraw⟩
  · rintro ⟨hne, role, hrole, w, hvalue, hraw⟩
    exact ⟨hne, w, List.mem_filterMap.mpr ⟨role, hrole, hvalue⟩, hraw⟩

theorem get_ofDeployment_of_ne {name : String} (h : ∀ c : Contract, name ≠ c.name) :
    (ofDeployment contracts poolHash).get name = [] := by
  unfold ofDeployment
  rw [get_foldl_insert_of_ne _ _ _ h, get_empty]

/-- **What is listed is small.** -/
theorem lower_of_mem_get {name : String} (h : v ∈ (ofDeployment contracts poolHash).get name) :
    Text.lower v = v := by
  rcases Contract.eq_name_or_forall_ne name with ⟨c, rfl⟩ | hne
  · obtain ⟨-, role, -, w, -, rfl⟩ := mem_get_iff.mp h
    simp [raw]
  · simp [get_ofDeployment_of_ne hne] at h

/-- **An entry is listed as it is**, digits or not. -/
theorem mem_get_of_entry {c : Contract} {role : Role} (hrole : role ∈ c.roles)
    (hkey : role.addressKey? = some key) (hentry : OrderedMap.find? key contracts = some entry)
    (hne : raw (raw entry.toList) ≠ []) :
    raw (raw entry.toList) ∈ (ofDeployment contracts poolHash).get c.name := by
  have hgiven : raw entry.toList ≠ [] := by
    intro hnil
    rw [hnil] at hne
    exact hne rfl
  exact mem_get_iff.mpr ⟨hne, role, hrole, _, Role.value?_of_entry hkey hentry hgiven, rfl⟩

variable {settings : Settings} {network : Network} {book : AddressBook} {d : Deployment}

/-- Digits in the entries are digits in the list. -/
theorem digits_of_mem_get {c : Contract} (h : Deployment.resolve settings network book = .ok d)
    (hentries : ∀ role ∈ c.roles, ∀ key entry, role.addressKey? = some key →
      OrderedMap.find? key contracts = some entry → Digits (raw (raw entry.toList)))
    (hv : v ∈ (ofDeployment contracts d.poolInitCodeHash).get c.name) : Digits v := by
  obtain ⟨-, -, hhash⟩ := Deployment.of_resolve h
  obtain ⟨-, role, hrole, w, hvalue, rfl⟩ := mem_get_iff.mp hv
  rcases Role.value?_cases hvalue with ⟨key, entry, hkey, hentry, rfl⟩ | hdefault | rfl
  · exact hentries role hrole key entry hkey hentry
  · have hstored := role.stored_default? w hdefault
    rw [hstored.raw_eq]
    exact hstored.digits
  · rw [hhash.raw_eq, hhash.raw_eq]
    exact hhash.digits

/-- **When a registry lists digits.** Beside the pool init code hash of a deployment that was
settled, and whatever the contracts of the book, nothing empty is listed and nothing with capital
letters. All that is listed under a name is in raw form exactly if the entries of the roles of its
contract are digits or nothing, and an entry that is something else is listed as what it is. -/
theorem listed_inRawForm_iff (h : Deployment.resolve settings network book = .ok d)
    (contracts : OrderedMap String String) :
    let listed := (ofDeployment contracts d.poolInitCodeHash).get
    (∀ name, ∀ v ∈ listed name, v ≠ [] ∧ Text.lower v = v) ∧
    (∀ name, (∀ v ∈ listed name, InRawForm v) ↔
      ∀ c : Contract, c.name = name → ∀ role ∈ c.roles, ∀ key entry,
        role.addressKey? = some key → OrderedMap.find? key contracts = some entry →
          Digits (raw (raw entry.toList))) ∧
    ∀ c : Contract, ∀ role ∈ c.roles, ∀ key entry, role.addressKey? = some key →
      OrderedMap.find? key contracts = some entry → raw (raw entry.toList) ≠ [] →
        raw (raw entry.toList) ∈ listed c.name := by
  intro listed
  refine ⟨fun name v hv => ⟨ne_nil_of_mem_get hv, lower_of_mem_get hv⟩, fun name => ⟨?_, ?_⟩,
    fun c role hrole key entry hkey hentry => mem_get_of_entry hrole hkey hentry⟩
  · rintro hall c rfl role hrole key entry hkey hentry
    by_cases hnil : raw (raw entry.toList) = []
    · simp [hnil, Digits]
    · exact (hall _ (mem_get_of_entry hrole hkey hentry hnil)).digits
  · intro hentries v hv
    rcases Contract.eq_name_or_forall_ne name with ⟨c, rfl⟩ | hname
    · have hdigits := digits_of_mem_get h (hentries c rfl) hv
      exact ⟨ne_nil_of_mem_get hv, hdigits, lower_of_mem_get hv, hdigits.splitMark_eq⟩
    · simp [listed, get_ofDeployment_of_ne hname] at hv

/-- A fork whose factory is not deployed yet, and whose wrapped ether has three marks: of the one
the letters of the placeholder are listed, of the other a mark is left. -/
theorem listed_inRawForm_iff_pending :
    let book := { AddressBook.empty with
      contracts := [("UniswapV3Factory", "TBA"), ("WETH9", "0x0X0xAB")],
      poolInitCodeHash := some "0xABCDEF" }
    ∃ d, Deployment.resolve Settings.default .testnet book = .ok d ∧
      d.registry.get "UniswapV3Factory" = ["tba".toList] ∧
      ¬ InRawForm "tba".toList ∧
      "0xab".toList ∈ d.registry.get "QuoterV2" ∧
      ∀ v ∈ d.registry.get "TickLens", InRawForm v := by
  intro book
  obtain ⟨d, hresolve⟩ : ∃ d, Deployment.resolve Settings.default .testnet book = .ok d := by
    have hok : (Deployment.resolve Settings.default .testnet book).isOk = true := by
      decide +kernel
    cases h : Deployment.resolve Settings.default .testnet book with
    | ok d => exact ⟨d, rfl⟩
    | error f =>
      rw [h] at hok
      cases hok
  obtain ⟨hbook, hhash, -⟩ := Deployment.of_resolve hresolve
  have hregistry : d.registry = ofDeployment book.contracts d.poolInitCodeHash := by
    rw [Deployment.registry, hbook]
  obtain ⟨-, hform, hlisted⟩ := listed_inRawForm_iff hresolve book.contracts
  refine ⟨d, hresolve, ?_⟩
  rw [hregistry]
  refine ⟨?_, ?_, ?_, ?_⟩
  · rw [hhash]
    decide +kernel
  · exact fun h => absurd h.digits (by decide +kernel)
  · exact hlisted .quoter .wrappedEther (by decide) "WETH9" "0x0X0xAB" rfl (by decide +kernel)
      (by decide +kernel)
  · refine (hform "TickLens").mpr ?_
    intro c hname role hrole
    rw [Contract.name_injective (e := .tickLens) hname] at hrole
    cases hrole

end Registry

end BytecodeParity
