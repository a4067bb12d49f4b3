import BytecodeParity.Proofs.Run
/-!
# The hash section next to the contract section

A report on a deployment has two parts that are made apart. A run walks all canonical contracts,
asks both sources and compares; the search for the pool init code hash walks a shorter list, asks
the deployed source again and looks for a hash. Each part has its own way to pass over a contract
that is not deployed and its own way to tell a failure.

They do not contradict each other. `searched` picks out of a run the reports on the contracts of the
shorter list that are deployed, in the order of that list, and **the hash reports are these, one by
one and in this order** (`verifyPoolHashes_concordant`). What is `Concordant` about two reports is
that one address was asked for: if the deployed source failed, both tell its message, and if it told
a code, that is the code in which the hash was looked for and the code that was compared.
-/

namespace BytecodeParity

open Hex

namespace Deployment

variable {d : Deployment} {deployed deployed' reference : Code.Source} {c : Contract}
  {address message : String} {code : Text}

/-! ## The search of one contract -/

/-- What is told of a code in which the pool init code hash was looked for. -/
def hashLocation (d : Deployment) (code : Text) : HashLocation :=
  Code.locatePoolHash code d.poolInitCodeHash WellKnown.canonicalPoolInitCodeHash

theorem verifyPoolHash?_of_none (h : d.book.deployedAddress? c.name = none) :
    d.verifyPoolHash? deployed c = none := by
  rw [verifyPoolHash?, h]
  rfl

theorem verifyPoolHash?_of_some (h : d.book.deployedAddress? c.name = some address) :
    d.verifyPoolHash? deployed c =
      some ⟨c.name, (deployed address).map d.hashLocation⟩ := by
  rw [verifyPoolHash?, h]
  rfl

/-- A hash report goes under the name of its contract. -/
theorem name_of_verifyPoolHash? {h : HashReport} (hc : d.verifyPoolHash? deployed c = some h) :
    h.name = c.name := by
  cases haddress : d.book.deployedAddress? c.name with
  | none =>
    rw [verifyPoolHash?_of_none haddress] at hc
    cases hc
  | some address =>
    rw [verifyPoolHash?_of_some haddress] at hc
    cases hc
    rfl

/-- Under the name of another contract it is not found. -/
theorem filter_verifyPoolHash? {e : Contract} (he : e ≠ c) :
    ((d.verifyPoolHash? deployed e).filter fun h => h.name == c.name) = none := by
  rw [Option.filter_eq_none_iff]
  intro h hh
  rw [name_of_verifyPoolHash? hh, beq_iff_eq]
  exact fun hname => he (Contract.name_injective hname)

/-- **What a hash report depends on**: the answer for the deployed address of its contract. -/
theorem verifyPoolHash?_congr
    (h : ∀ address, d.book.deployedAddress? c.name = some address →
      deployed' address = deployed address) :
    d.verifyPoolHash? deployed' c = d.verifyPoolHash? deployed c := by
  cases haddress : d.book.deployedAddress? c.name with
  | none => rw [verifyPoolHash?_of_none haddress, verifyPoolHash?_of_none haddress]
  | some address =>
    rw [verifyPoolHash?_of_some haddress, verifyPoolHash?_of_some haddress, h address haddress]

/-! ## Two reports on one contract -/

/-- The reports of a run on deployed contracts that embed the pool init code hash, in the order in
which these are searched. -/
def searched (reports : List ContractReport) : List ContractReport :=
  Contract.embeddingPoolHash.filterMap fun c =>
    reports.find? fun r => r.outcome != .notDeployed && r.name == c.name

/-- What a hash report says next to the report of a run on the same contract. -/
structure Concordant (d : Deployment) (deployed : Code.Source) (r : ContractReport)
    (h : HashReport) : Prop where
  name_eq : h.name = r.name
  /-- A failure is told exactly if the deployed source failed for the contract's address. -/
  error_iff : ∀ message, h.result = .error message ↔
    ∃ address, d.book.deployedAddress? r.name = some address ∧ deployed address = .error message
  /-- The run tells it as well, and no other. -/
  failed_of_error : ∀ message, h.result = .error message → r.outcome = .failed message
  /-- Otherwise the hash was looked for in the code that the deployed source told. -/
  ok_iff : ∀ location, h.result = .ok location ↔
    ∃ address code, d.book.deployedAddress? r.name = some address ∧ deployed address = .ok code ∧
      location = d.hashLocation code
  /-- It is the code that was compared. -/
  ok_of_compared : ∀ result, r.outcome = .compared result →
    ∃ code referenceCode, h.result = .ok (d.hashLocation code) ∧
      r.deployedSize = some (byteLength code) ∧
      result = Code.compareContract r.name code referenceCode d.registry Registry.canonical

/-- The two reports on a deployed contract, whatever the reference source answers. -/
theorem concordant_compareOne (h : d.book.deployedAddress? c.name = some address) :
    Concordant d deployed (d.compareOne deployed reference c)
      ⟨c.name, (deployed address).map d.hashLocation⟩ := by
  have hsettled := settled_compareOne d deployed reference c
  have hname : (d.compareOne deployed reference c).name = c.name := hsettled.name_eq
  have herror : ∀ message, (deployed address).map d.hashLocation = .error message ↔
      deployed address = .error message := by
    intro message
    cases deployed address with
    | error m => simp [Except.map]
    | ok code => simp [Except.map]
  constructor
  case name_eq => exact hname.symm
  case error_iff =>
    intro message
    rw [hname, h]
    simpa using herror message
  case failed_of_error =>
    intro message hm
    exact (hsettled.failed_iff message).mpr ⟨address, h, Or.inl ((herror message).mp hm)⟩
  case ok_iff =>
    intro location
    rw [hname, h]
    cases hanswer : deployed address with
    | error m => simp [Except.map, hanswer]
    | ok code => simp [Except.map, hanswer, eq_comm]
  case ok_of_compared =>
    intro result hresult
    obtain ⟨code, referenceCode, hanswered, -, heq⟩ := (hsettled.compared_iff result).mp hresult
    obtain ⟨hsize, -⟩ := hsettled.sizes_eq code referenceCode hanswered ⟨result, hresult⟩
    refine ⟨code, referenceCode, ?_, hsize, by rw [hname]; exact heq⟩
    rw [((answered_iff h).mp hanswered).1]
    rfl

/-! ## All reports -/

/-- In a run, the report on a contract is found under its name unless it is not deployed. -/
theorem find?_run {σ : Type} (observe : σ → ContractReport → σ) (s : σ) (c : Contract) :
    ((d.run deployed reference observe s).1.find?
        fun r => r.outcome != .notDeployed && r.name == c.name) =
      if d.book.deployedAddress? c.name = none then none
      else some (d.compareOne deployed reference c) := by
  have hiff := (settled_compareOne d deployed reference c).notDeployed_iff
  rw [← List.head?_filter, ← List.filter_filter, filter_run, List.filter_singleton]
  by_cases h : d.book.deployedAddress? c.name = none
  · simp [hiff.mpr h, h]
  · have hne : ((d.compareOne deployed reference c).outcome != .notDeployed) = true :=
      bne_iff_ne.mpr (mt hiff.mp h)
    simp [hne, h]

/-- **The hash section agrees with the run.** The hash reports are those on the contracts that embed
the hash and that the run does not report as not deployed, one for each and in reporting order, and
each is concordant with the report of the run. It depends on the answer for the deployed address of
its contract alone. -/
theorem verifyPoolHashes_concordant {σ : Type} (d : Deployment) (deployed reference : Code.Source)
    (observe : σ → ContractReport → σ) (s : σ) :
    List.Forall₂ (Concordant d deployed) (searched (d.run deployed reference observe s).1)
      (d.verifyPoolHashes deployed) ∧
    ∀ (c : Contract) (deployed' : Code.Source),
      (∀ address, d.book.deployedAddress? c.name = some address →
        deployed' address = deployed address) →
      ((d.verifyPoolHashes deployed').filter fun h => h.name == c.name) =
        (d.verifyPoolHashes deployed).filter fun h => h.name == c.name := by
  constructor
  · -- Contract by contract, there is a report on either side or on neither.
    refine List.rel_filterMap (R := Eq) ?_ (List.forall₂_same.mpr fun _ _ => rfl)
    rintro c _ rfl
    dsimp only
    rw [find?_run]
    cases h : d.book.deployedAddress? c.name with
    | none =>
      rw [if_pos rfl, verifyPoolHash?_of_none h]
      exact Option.Rel.none
    | some address =>
      rw [if_neg (Option.some_ne_none address), verifyPoolHash?_of_some h]
      exact Option.Rel.some (concordant_compareOne h)
  · intro c deployed' hagree
    rw [verifyPoolHashes, verifyPoolHashes, List.filter_filterMap, List.filter_filterMap]
    refine List.filterMap_congr fun e _ => ?_
    by_cases he : e = c
    · rw [he, verifyPoolHash?_congr hagree]
    · rw [filter_verifyPoolHash? he, filter_verifyPoolHash? he]

/-- Two deployed contracts, one of which the deployed source refuses. Both sections tell the
refusal, and the hash section tells it of the quoter also if the source fails for the other contract
as well. -/
theorem verifyPoolHashes_concordant_quoter :
    let d : Deployment :=
      ⟨.mainnet, 1, "", { AddressBook.empty with
        contracts := [("QuoterV2", "0x11"), ("SwapRouter02", "0x22")] }, "ff".toList⟩
    let reference : Code.Source := fun _ => .error "unreachable"
    let deployed : Code.Source := fun a => if a = "0x11" then .error "refused" else .ok ['6', '0']
    let deployed' : Code.Source := fun a => .error (if a = "0x11" then "refused" else "timeout")
    let run := d.run deployed reference (fun n _ => n + 1) 0
    (searched run.1).map (fun r => (r.name, r.outcome)) =
        [("QuoterV2", .failed "refused"), ("SwapRouter02", .failed "unreachable")] ∧
      (d.verifyPoolHashes deployed).map HashReport.name = ["QuoterV2", "SwapRouter02"] ∧
      ((d.verifyPoolHashes deployed').filter fun h => h.name == Contract.quoter.name) =
        (d.verifyPoolHashes deployed).filter fun h => h.name == Contract.quoter.name := by
  intro d reference deployed deployed' run
  obtain ⟨hall, hother⟩ :=
    verifyPoolHashes_concordant d deployed reference (fun n _ => n + 1) 0
  have haddress : d.book.deployedAddress? Contract.quoter.name = some "0x11" := by decide +kernel
  have hnames : List.Forall₂ Eq ((searched run.1).map ContractReport.name)
      ((d.verifyPoolHashes deployed).map HashReport.name) := by
    rw [List.forall₂_map_left_iff, List.forall₂_map_right_iff]
    exact hall.imp fun _ _ h => h.name_eq.symm
  refine ⟨by decide +kernel, ?_, ?_⟩
  · rw [List.forall₂_eq_eq_eq] at hnames
    rw [← hnames]
    decide +kernel
  · apply hother .quoter deployed'
    intro address h
    rw [haddress] at h
    obtain rfl := Option.some.inj h
    rfl

end Deployment

end BytecodeParity
