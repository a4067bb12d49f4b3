import BytecodeParity.CommandLine.Diff
import BytecodeParity.Proofs.Code.Separation
import BytecodeParity.Proofs.Deployment
/-!
# Two ways to one comparison

Two codes of a contract can be compared by hand, with an address file that tells the values of the
fork, or in a run of the deployment that the same file describes. Both end in `compareContract`,
and what they hand to it differs in one place only: a run takes the pool init code hash from the
file, a comparison by hand takes it from its own option and, where that is left out, the hash of the
known deployment, whatever the file says (`agreeOn_iff`).

So the two agree on all codes of a contract that does not embed the hash, and on all codes if the
hash of the file is the known one. **That is also the limit**: with any other hash, and other
values that occur in neither, there are codes on which they disagree (`entryPoints_agree_iff`).
-/

namespace BytecodeParity

open Hex Text

/-- Whether comparing two codes by hand, with a file and without a hash, and comparing them in a
run of a deployment come to the same result, whoever tells the codes and whoever looks on. -/
def AgreeOn (fs : Files.Tree) (path : String) (d : Deployment) (c : Contract)
    (code referenceCode : Text) : Prop :=
  ∀ (o : Diff.Options) (deployed reference : Code.Source) (address : String),
    o.contract = c.name → o.addresses = some path → o.poolInitCodeHash = none →
    o.deployed = String.ofList code → o.reference = String.ofList referenceCode →
    d.book.deployedAddress? c.name = some address →
    deployed address = .ok code → reference c.address = .ok referenceCode →
    ∀ {σ : Type} (observe : σ → ContractReport → σ) (s : σ),
      ∃ result, Diff.result fs o = .ok result ∧
        ((d.run deployed reference observe s).1.filter fun r => r.name == c.name).map
          ContractReport.outcome = [.compared result]

/-! ## By hand -/

namespace Diff

variable {fs : Files.Tree} {path : String} {book : AddressBook} {c : Contract}
  {code referenceCode : Text} {o : Options}

/-- A code given as an argument is taken as it is. -/
theorem readCode_ofList (h : Hex.Code code) : readCode fs (String.ofList code) = .ok code := by
  rw [readCode, String.toList_ofList]
  split
  · -- No code begins with an at sign.
    exact absurd rfl (h.forall_mem (P := (· ≠ '@')) (by decide) '@' List.mem_cons_self)
  · rw [h.trim_eq]

/-- **A comparison by hand** takes the addresses from the file and the hash from elsewhere. -/
theorem result_eq (hbook : AddressBook.ofFile fs path = .ok book) (hcontract : o.contract = c.name)
    (hpath : o.addresses = some path) (hhash : o.poolInitCodeHash = none)
    (hcode : Hex.Code code) (hreference : Hex.Code referenceCode)
    (hdeployed : o.deployed = String.ofList code)
    (hreferenceArg : o.reference = String.ofList referenceCode) :
    result fs o =
      .ok (Code.compareContract c.name code referenceCode
        (Registry.ofDeployment book.contracts WellKnown.poolInitCodeHash)
        Registry.canonical) := by
  have hcheck : checkContract c.name = .ok () := by
    rw [checkContract, Contract.ofName?_name]
    exact if_pos (Or.inr rfl)
  have hcontracts : readContracts fs (some path) = .ok book.contracts := by
    rw [readContracts, hbook]
    rfl
  rw [result, hdeployed, hreferenceArg, readCode_ofList hcode, readCode_ofList hreference,
    hcontract, hcheck, hpath, hcontracts, hhash]
  rfl

end Diff

/-! ## Agreement -/

variable {fs : Files.Tree} {path : String} {book : AddressBook} {settings : Settings}
  {network : Network} {d : Deployment} {c : Contract} {address : String}
  {code referenceCode : Text}

/-- To agree on two codes is to compare them alike under the two hashes. -/
theorem agreeOn_iff (hbook : AddressBook.ofFile fs path = .ok d.book)
    (haddress : d.book.deployedAddress? c.name = some address)
    (hcode : Hex.Code code) (hreference : Hex.Code referenceCode) :
    AgreeOn fs path d c code referenceCode ↔
      Code.compareContract c.name code referenceCode
          (Registry.ofDeployment d.book.contracts WellKnown.poolInitCodeHash)
          Registry.canonical =
        Code.compareContract c.name code referenceCode d.registry Registry.canonical := by
  constructor
  · intro h
    -- Any options and sources that fit will do, and any observer.
    obtain ⟨result, hresult, hrun⟩ := h
      { deployed := String.ofList code, reference := String.ofList referenceCode
        contract := c.name, addresses := some path, poolInitCodeHash := none
        allowExpected := false, json := false }
      (fun _ => .ok code) (fun _ => .ok referenceCode) address rfl rfl rfl rfl rfl haddress rfl rfl
      (fun (_ : Unit) _ => ()) ()
    rw [Diff.result_eq hbook rfl rfl rfl hcode hreference rfl rfl, Except.ok.injEq] at hresult
    rw [Deployment.filter_run, List.map_singleton,
      Deployment.outcome_compareOne haddress rfl rfl hcode.nonempty hreference.nonempty] at hrun
    rw [hresult]
    exact (Outcome.compared.inj (List.singleton_inj.mp hrun)).symm
  · intro h o deployed reference address hcontract hpath hhash hd hr haddress hdeployed hsource σ
      observe s
    refine ⟨_, Diff.result_eq hbook hcontract hpath hhash hcode hreference hd hr, ?_⟩
    rw [Deployment.filter_run, List.map_singleton,
      Deployment.outcome_compareOne haddress hdeployed hsource hcode.nonempty
        hreference.nonempty, h]

/-- Codes that are compared differently under the known hash and another one. The longer of the two
cannot occur in the other, so the shorter one goes into the deployed code. -/
theorem exists_codes_ne_known (hc : Role.poolInitCodeHash ∈ c.roles)
    (hstored : Stored d.poolInitCodeHash) (hne : d.poolInitCodeHash ≠ WellKnown.poolInitCodeHash)
    (hother : ∀ v ∈ Registry.otherValues d.book.contracts c, Value v ∧
      (∀ a, occursAt (Text.lower v) WellKnown.poolInitCodeHash a = false) ∧
      ∀ a, occursAt (Text.lower v) d.poolInitCodeHash a = false) :
    ∃ code referenceCode, Hex.Code code ∧ Hex.Code referenceCode ∧
      Code.compareContract c.name code referenceCode
          (Registry.ofDeployment d.book.contracts WellKnown.poolInitCodeHash)
          Registry.canonical ≠
        Code.compareContract c.name code referenceCode d.registry Registry.canonical := by
  have hknown := WellKnown.stored_poolInitCodeHash
  rcases Nat.le_total WellKnown.poolInitCodeHash.length d.poolInitCodeHash.length with hle | hle
  · exact Code.exists_codes_ne hc hknown hstored
      (occursAt_eq_false_of_le hstored.ne_nil hle (Ne.symm hne))
      fun v hv => ⟨(hother v hv).1, (hother v hv).2.1⟩
  · obtain ⟨code, referenceCode, hcode, hreference, hdiffer⟩ :=
      Code.exists_codes_ne hc hstored hknown (occursAt_eq_false_of_le hknown.ne_nil hle hne)
        fun v (hv : v ∈ Registry.otherValues d.book.contracts c) =>
          ⟨(hother v hv).1, (hother v hv).2.2⟩
    exact ⟨code, referenceCode, hcode, hreference, Ne.symm hdiffer⟩

/-- **When a comparison by hand and a run agree.** They do on all codes if the file's hash is the
known one or the contract does not embed the hash. Otherwise there are codes on which they do not,
at least if the contract's other values occur in neither hash. -/
theorem entryPoints_agree_iff (hbook : AddressBook.ofFile fs path = .ok book)
    (hresolve : Deployment.resolve settings network book = .ok d)
    (haddress : book.deployedAddress? c.name = some address) :
    (d.poolInitCodeHash = WellKnown.poolInitCodeHash ∨ Role.poolInitCodeHash ∉ c.roles →
        ∀ code referenceCode, Hex.Code code → Hex.Code referenceCode →
          AgreeOn fs path d c code referenceCode) ∧
      ((∀ v ∈ Registry.otherValues book.contracts c, Value v ∧
          (∀ a, occursAt (Text.lower v) WellKnown.poolInitCodeHash a = false) ∧
          ∀ a, occursAt (Text.lower v) d.poolInitCodeHash a = false) →
        (∀ code referenceCode, Hex.Code code → Hex.Code referenceCode →
          AgreeOn fs path d c code referenceCode) →
        d.poolInitCodeHash = WellKnown.poolInitCodeHash ∨ Role.poolInitCodeHash ∉ c.roles) := by
  obtain ⟨rfl, -, hstored⟩ := Deployment.of_resolve hresolve
  constructor
  · intro h code referenceCode hcode hreference
    refine (agreeOn_iff hbook haddress hcode hreference).mpr (Code.compareContract_congr ?_)
    rcases h with h | h
    · rw [Deployment.registry, h]
    · rw [Deployment.registry, Registry.get_ofDeployment_of_notMem h,
        Registry.get_ofDeployment_of_notMem h]
  · intro hother hagree
    by_contra hnot
    rw [not_or, not_not] at hnot
    obtain ⟨hne, hc⟩ := hnot
    obtain ⟨code, referenceCode, hcode, hreference, hdiffer⟩ :=
      exists_codes_ne_known hc hstored hne hother
    exact hdiffer ((agreeOn_iff hbook haddress hcode hreference).mp
      (hagree code referenceCode hcode hreference))

/-- A file with a hash of its own and a deployed quoter, on whose code a comparison by hand and a
run disagree. -/
theorem entryPoints_agree_iff_quoter :
    let fs : Files.Tree := ⟨[(["addresses.json"], .file <| String.toUTF8
      "\x7b\"contracts\":\x7b\"QuoterV2\":\"0x11\"\x7d,\"poolInitCodeHash\":\"0x7777\"\x7d")], []⟩
    let book := { AddressBook.empty with
      contracts := [("QuoterV2", "0x11")], poolInitCodeHash := some "0x7777" }
    ∃ d, AddressBook.ofFile fs "addresses.json" = .ok book ∧
      Deployment.resolve Settings.default .testnet book = .ok d ∧
      ∃ code referenceCode, Hex.Code code ∧ Hex.Code referenceCode ∧
        ¬ AgreeOn fs "addresses.json" d .quoter code referenceCode := by
  intro fs book
  have hbook : AddressBook.ofFile fs "addresses.json" = .ok book := by rfl
  obtain ⟨d, hresolve⟩ : ∃ d, Deployment.resolve Settings.default .testnet book = .ok d := by
    have hok : (Deployment.resolve Settings.default .testnet book).isOk = true := by
      decide +kernel
    cases h : Deployment.resolve Settings.default .testnet book with
    | ok d => exact ⟨d, rfl⟩
    | error f =>
      rw [h] at hok
      cases hok
  have haddress : book.deployedAddress? Contract.quoter.name = some "0x11" := by decide +kernel
  obtain ⟨-, hhash, -⟩ := Deployment.of_resolve hresolve
  have hseven : d.poolInitCodeHash = "7777".toList := hhash.trans (by decide +kernel)
  have hother : ∀ v ∈ Registry.otherValues book.contracts .quoter, Value v ∧
      (∀ a, occursAt (Text.lower v) WellKnown.poolInitCodeHash a = false) ∧
      ∀ a, occursAt (Text.lower v) d.poolInitCodeHash a = false := by
    rw [hseven]
    intro v hv
    have hchecked : Value v ∧
        (∀ a < WellKnown.poolInitCodeHash.length,
          occursAt (Text.lower v) WellKnown.poolInitCodeHash a = false) ∧
        ∀ a < "7777".toList.length, occursAt (Text.lower v) "7777".toList a = false := by
      revert v
      decide +kernel
    obtain ⟨hvalue, hknown, hown⟩ := hchecked
    have hne := lower_ne_nil hvalue.ne_nil
    exact ⟨hvalue, forall_not_occursAt hne hknown, forall_not_occursAt hne hown⟩
  refine ⟨d, hbook, hresolve, ?_⟩
  by_contra hnone
  rcases (entryPoints_agree_iff hbook hresolve haddress).2 hother fun code referenceCode hcode
      hreference => by_contra fun hnot => hnone ⟨code, referenceCode, hcode, hreference, hnot⟩
    with h | h
  · rw [hseven] at h
    revert h
    decide +kernel
  · revert h
    decide

end BytecodeParity
