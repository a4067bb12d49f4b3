import BytecodeParity.Proofs.Code.HashSearch
import BytecodeParity.Proofs.Contract.RawForm
/-!
# What a deployment is settled to

Four things that may be left out meet when a deployment is settled: the endpoint, the chain and the
hash of the address book, and the endpoints of the settings. Each is left out in its own way. An
endpoint is left out if it is empty, a hash if nothing of it is left in raw form, and a chain only if
it is not named at all.

`HasEndpoint` and `UsableHash` say what has to be there, **a deployment is settled exactly if both
hold, and a missing endpoint is told first** (`resolve_ok_iff`). What it is settled to is `Resolved`.
Of the hash that is more than its form: the registry and the search bring it into raw form once more,
each on its own, and because that changes nothing any more, **the value that is masked and the value
that is looked for are one text**.
-/

namespace BytecodeParity.Deployment

open Hex

/-! ## The endpoint -/

/-- The book names an endpoint, or the settings have one for the chain: that of the book or else that
of the network. -/
def HasEndpoint (settings : Settings) (network : Network) (book : AddressBook) : Prop :=
  (∃ rpc, book.rpc = some rpc ∧ rpc ≠ "") ∨
    ∃ url, OrderedMap.find? (book.chainId.getD network.chainId) settings.rpcUrls = some url

variable {settings : Settings} {network : Network} {book : AddressBook}

theorem chooseEndpoint_of_own (settings : Settings) (network : Network) (chainId : Nat)
    {rpc : String} (h : book.rpc = some rpc) (hne : rpc ≠ "") :
    chooseEndpoint settings network chainId book = .ok rpc := by
  have hown : (book.rpc.filter fun r => r != "") = some rpc := by
    rw [h, Option.filter_some, if_pos (bne_iff_ne.mpr hne)]
  unfold chooseEndpoint
  rw [hown]

theorem chooseEndpoint_of_configured (settings : Settings) (network : Network) (chainId : Nat)
    (h : ∀ rpc, book.rpc = some rpc → rpc = "") :
    chooseEndpoint settings network chainId book =
      match OrderedMap.find? chainId settings.rpcUrls with
      | some url => .ok url
      | none => .error (.noEndpointForNetwork network) := by
  have hnone : (book.rpc.filter fun r => r != "") = none := by
    rw [Option.filter_eq_none_iff]
    intro rpc hrpc
    simpa using h rpc hrpc
  unfold chooseEndpoint Settings.endpoint
  rw [hnone]
  cases OrderedMap.find? chainId settings.rpcUrls with
  | none => rfl
  | some url => rfl

theorem exists_chooseEndpoint (h : HasEndpoint settings network book) :
    ∃ url, chooseEndpoint settings network (book.chainId.getD network.chainId) book = .ok url := by
  by_cases hown : ∃ rpc, book.rpc = some rpc ∧ rpc ≠ ""
  · obtain ⟨rpc, hrpc, hne⟩ := hown
    exact ⟨rpc, chooseEndpoint_of_own settings network _ hrpc hne⟩
  · obtain ⟨url, hurl⟩ := h.resolve_left hown
    refine ⟨url, ?_⟩
    rw [chooseEndpoint_of_configured settings network _ (by simpa using hown), hurl]

theorem chooseEndpoint_of_not (h : ¬ HasEndpoint settings network book) :
    chooseEndpoint settings network (book.chainId.getD network.chainId) book =
      .error (.noEndpointForNetwork network) := by
  unfold HasEndpoint at h
  rw [not_or] at h
  obtain ⟨hown, hconfigured⟩ := h
  rw [chooseEndpoint_of_configured settings network _ (by simpa using hown)]
  cases hurl : OrderedMap.find? (book.chainId.getD network.chainId) settings.rpcUrls with
  | none => rfl
  | some url => exact absurd ⟨url, hurl⟩ hconfigured

/-! ## The hash -/

/-- The book has no hash, or one of which nothing is left in raw form, or one of whole bytes. -/
def UsableHash (book : AddressBook) : Prop :=
  ∀ given, book.poolInitCodeHash = some given →
    raw given.toList = [] ∨ WholeBytes (raw given.toList)

theorem choosePoolHash_of_given {given : String} (h : book.poolInitCodeHash = some given)
    (hne : raw given.toList ≠ []) : choosePoolHash book = raw given.toList := by
  obtain ⟨c, hash, hraw⟩ := List.exists_cons_of_ne_nil hne
  unfold choosePoolHash
  rw [h, Option.map_some, hraw]

theorem choosePoolHash_of_default
    (h : ∀ given, book.poolInitCodeHash = some given → raw given.toList = []) :
    choosePoolHash book = WellKnown.poolInitCodeHash := by
  unfold choosePoolHash
  cases hgiven : book.poolInitCodeHash with
  | none => rfl
  | some given => rw [Option.map_some, h given hgiven]

theorem usableHash_iff (book : AddressBook) :
    UsableHash book ↔ WholeBytes (choosePoolHash book) := by
  by_cases h : ∀ given, book.poolInitCodeHash = some given → raw given.toList = []
  · rw [choosePoolHash_of_default h]
    apply iff_of_true
    · intro given hgiven
      exact Or.inl (h given hgiven)
    · decide +kernel
  · rw [not_forall] at h
    obtain ⟨given, h⟩ := h
    rw [Classical.not_imp] at h
    obtain ⟨hgiven, hne⟩ := h
    rw [choosePoolHash_of_given hgiven hne]
    constructor
    · intro husable
      exact (husable given hgiven).resolve_left hne
    · intro hwhole other hother
      rw [hgiven] at hother
      cases hother
      exact Or.inr hwhole

/-! ## Settling -/

/-- What is known of a deployment that was settled. -/
structure Resolved (settings : Settings) (network : Network) (book : AddressBook)
    (d : Deployment) : Prop where
  network_eq : d.network = network
  chainId_eq : d.chainId = book.chainId.getD network.chainId
  book_eq : d.book = book
  /-- An endpoint of the book goes before those of the settings. -/
  rpcUrl_own : ∀ rpc, book.rpc = some rpc → rpc ≠ "" → d.rpcUrl = rpc
  rpcUrl_configured : (∀ rpc, book.rpc = some rpc → rpc = "") →
    OrderedMap.find? d.chainId settings.rpcUrls = some d.rpcUrl
  hash_given : ∀ given, book.poolInitCodeHash = some given → raw given.toList ≠ [] →
    d.poolInitCodeHash = raw given.toList
  hash_default : (∀ given, book.poolInitCodeHash = some given → raw given.toList = []) →
    d.poolInitCodeHash = WellKnown.poolInitCodeHash
  /-- The hash is digits in small letters, two for each byte, and there is one. -/
  stored : Stored d.poolInitCodeHash
  raw_eq : raw d.poolInitCodeHash = d.poolInitCodeHash
  /-- It is masked as it is, in each contract that embeds it or is searched for it. -/
  masked : ∀ c : Contract, .poolInitCodeHash ∈ c.roles ∨ c ∈ Contract.embeddingPoolHash →
    d.poolInitCodeHash ∈ d.registry.get c.name
  /-- It is looked for as it is. -/
  searched : ∀ code reference,
    (∃ byte, Code.locatePoolHash code d.poolInitCodeHash reference = .found byte) ↔
      d.poolInitCodeHash <:+: Text.lower (body code)

theorem mem_registry_of_stored {d : Deployment} (h : Stored d.poolInitCodeHash) {c : Contract}
    (hrole : .poolInitCodeHash ∈ c.roles) : d.poolInitCodeHash ∈ d.registry.get c.name := by
  apply Registry.mem_get_iff.mpr
  refine ⟨h.ne_nil, .poolInitCodeHash, hrole, raw d.poolInitCodeHash, rfl, ?_⟩
  rw [h.raw_eq, h.raw_eq]

theorem found_iff_of_stored {hash : Text} (h : Stored hash) (code reference : Text) :
    (∃ byte, Code.locatePoolHash code hash reference = .found byte) ↔
      hash <:+: Text.lower (body code) := by
  rw [Code.found_iff_carries, Code.carries_iff h.digits h.ne_nil, h.small]

/-- A contract that is searched for the hash embeds it. -/
theorem mem_roles_of_searched {c : Contract} (h : c ∈ Contract.embeddingPoolHash) :
    .poolInitCodeHash ∈ c.roles := by
  revert h
  cases c <;> decide

theorem resolved_mk {url : String}
    (hurl : chooseEndpoint settings network (book.chainId.getD network.chainId) book = .ok url)
    (hhash : WholeBytes (choosePoolHash book)) :
    Resolved settings network book
      ⟨network, book.chainId.getD network.chainId, url, book, choosePoolHash book⟩ := by
  have hstored : Stored (choosePoolHash book) :=
    ⟨hhash, lower_choosePoolHash book, choosePoolHash_ne_nil book⟩
  constructor
  case network_eq => rfl
  case chainId_eq => rfl
  case book_eq => rfl
  case rpcUrl_own =>
    intro rpc hrpc hne
    rw [chooseEndpoint_of_own settings network _ hrpc hne] at hurl
    cases hurl
    rfl
  case rpcUrl_configured =>
    intro hnone
    rw [chooseEndpoint_of_configured settings network _ hnone] at hurl
    show OrderedMap.find? (book.chainId.getD network.chainId) settings.rpcUrls = some url
    cases hfind : OrderedMap.find? (book.chainId.getD network.chainId) settings.rpcUrls with
    | none =>
      rw [hfind] at hurl
      cases hurl
    | some configured =>
      rw [hfind] at hurl
      cases hurl
      rfl
  case hash_given =>
    intro given hgiven hne
    exact choosePoolHash_of_given hgiven hne
  case hash_default =>
    intro hnone
    exact choosePoolHash_of_default hnone
  case stored => exact hstored
  case raw_eq => exact hstored.raw_eq
  case masked =>
    intro c hembeds
    apply mem_registry_of_stored hstored
    rcases hembeds with hrole | hsearched
    · exact hrole
    · exact mem_roles_of_searched hsearched
  case searched => exact found_iff_of_stored hstored

/-- Settling, once there is an endpoint. -/
theorem resolve_of_endpoint {url : String}
    (hurl : chooseEndpoint settings network (book.chainId.getD network.chainId) book = .ok url) :
    resolve settings network book =
      match fault? (choosePoolHash book) with
      | some fault => .error (.malformedHash fault)
      | none =>
        .ok ⟨network, book.chainId.getD network.chainId, url, book, choosePoolHash book⟩ := by
  show (chooseEndpoint settings network (book.chainId.getD network.chainId) book >>= _) = _
  rw [hurl]
  rfl

/-- **What is settled, and to what.** A deployment is settled exactly if there are an endpoint and a
usable hash. Without an endpoint that is told, whatever the hash; with one, it is told what is wrong
with the hash of the book. -/
theorem resolve_ok_iff (settings : Settings) (network : Network) (book : AddressBook) :
    ((∃ d, resolve settings network book = .ok d) ↔
        HasEndpoint settings network book ∧ UsableHash book) ∧
      (¬ HasEndpoint settings network book →
        resolve settings network book = .error (.noEndpointForNetwork network)) ∧
      (HasEndpoint settings network book → ¬ UsableHash book →
        ∃ fault, fault? (choosePoolHash book) = some fault ∧
          resolve settings network book = .error (.malformedHash fault)) ∧
      ∀ d, resolve settings network book = .ok d → Resolved settings network book d := by
  by_cases hendpoint : HasEndpoint settings network book
  · obtain ⟨url, hurl⟩ := exists_chooseEndpoint hendpoint
    rw [resolve_of_endpoint hurl, usableHash_iff, ← fault?_eq_none_iff]
    cases hfault : fault? (choosePoolHash book) with
    | some fault => simp [hendpoint]
    | none =>
      have hresolved := resolved_mk hurl (fault?_eq_none_iff.mp hfault)
      refine ⟨by simp [hendpoint], by simp [hendpoint], by simp, ?_⟩
      intro d hd
      cases hd
      exact hresolved
  · have herror : resolve settings network book = .error (.noEndpointForNetwork network) := by
      show (chooseEndpoint settings network (book.chainId.getD network.chainId) book >>= _) = _
      rw [chooseEndpoint_of_not hendpoint]
      rfl
    rw [herror]
    simp [hendpoint]

/-- A book with an empty endpoint and a hash in capitals: the endpoint is that of the chain that the
book names, and the hash is the text that is masked and looked for. -/
theorem resolve_ok_iff_capitals :
    let book := { AddressBook.empty with
      rpc := some "", chainId := some 1, poolInitCodeHash := some " 0XAB01 " }
    ∃ d, resolve Settings.default .testnet book = .ok d ∧
      d.rpcUrl = "https://eth.llamarpc.com" ∧ d.poolInitCodeHash = "ab01".toList ∧
      "ab01".toList ∈ d.registry.get "QuoterV2" ∧
      ∃ byte, Code.locatePoolHash "0x61AB01".toList d.poolInitCodeHash [] = .found byte := by
  intro book
  obtain ⟨hok, -, -, hresolved⟩ := resolve_ok_iff Settings.default .testnet book
  have hendpoint : HasEndpoint Settings.default .testnet book :=
    Or.inr ⟨"https://eth.llamarpc.com", by decide +kernel⟩
  have husable : UsableHash book := by
    intro given hgiven
    cases hgiven
    exact Or.inr (by decide +kernel)
  obtain ⟨d, hd⟩ := hok.mpr ⟨hendpoint, husable⟩
  have h := hresolved d hd
  have hhash : d.poolInitCodeHash = "ab01".toList := by
    rw [h.hash_given " 0XAB01 " rfl (by decide +kernel)]
    decide +kernel
  refine ⟨d, hd, ?_, hhash, ?_, ?_⟩
  · have hconfigured := h.rpcUrl_configured (by simp [book])
    rw [h.chainId_eq] at hconfigured
    exact (Option.some.inj hconfigured).symm
  · rw [← hhash]
    exact h.masked .quoter (Or.inl (by decide))
  · rw [h.searched, hhash]
    decide +kernel

end BytecodeParity.Deployment
