import BytecodeParity.Proofs.Contract.Registry
import BytecodeParity.Proofs.Hex.Faults
import BytecodeParity.Run
/-!
# Deployments and their runs

What an address book leaves open is settled once, before anything is compared, and a run then walks
the canonical contracts with an observer looking on. Of the first this file keeps what every run
relies on: the book is the one that was given, and **the hash is in stored form** (`of_resolve`). Of
the second it takes the observer out, so that **a run is the reports, one for each contract in
reporting order, and the observer has seen exactly these** (`run_eq`).
-/

namespace BytecodeParity.Deployment

open Hex

variable {settings : Settings} {network : Network} {book : AddressBook} {d : Deployment}

/-! ## Settling a deployment -/

theorem choosePoolHash_ne_nil (book : AddressBook) : choosePoolHash book ≠ [] := by
  rw [choosePoolHash]
  split
  · exact List.cons_ne_nil _ _
  · decide

theorem lower_choosePoolHash (book : AddressBook) :
    Text.lower (choosePoolHash book) = choosePoolHash book := by
  rw [choosePoolHash]
  split
  next c hash h =>
    obtain ⟨given, -, hraw⟩ := Option.map_eq_some_iff.mp h
    rw [← hraw, raw, lower_lower]
  · decide

/-- **What a deployment that is ready for a run is known to be.** -/
theorem of_resolve (h : resolve settings network book = .ok d) :
    d.book = book ∧ d.poolInitCodeHash = choosePoolHash book ∧ Stored d.poolInitCodeHash := by
  simp only [resolve, bind, Except.bind] at h
  split at h
  · cases h
  · cases hfault : fault? (choosePoolHash book) with
    | some fault =>
      rw [hfault] at h
      cases h
    | none =>
      rw [hfault] at h
      cases h
      exact ⟨rfl, rfl, fault?_eq_none_iff.mp hfault, lower_choosePoolHash book,
        choosePoolHash_ne_nil book⟩

/-! ## Runs -/

variable {σ : Type} {deployed reference : Code.Source} {observe : σ → ContractReport → σ}

/-- The observer is shown the reports that come out, in their order. -/
theorem compareEach_eq (cs : List Contract) (s : σ) :
    d.compareEach deployed reference observe cs s =
      (cs.map (d.compareOne deployed reference),
        (cs.map (d.compareOne deployed reference)).foldl observe s) := by
  induction cs generalizing s with
  | nil => rfl
  | cons c cs ih =>
    rw [compareEach, ih]
    rfl

/-- **A run reports on every contract once, in reporting order.** -/
theorem run_eq (s : σ) :
    d.run deployed reference observe s =
      (Contract.all.map (d.compareOne deployed reference),
        (Contract.all.map (d.compareOne deployed reference)).foldl observe s) :=
  compareEach_eq Contract.all s

variable {c : Contract} {address : String}

/-- Of a contract that is not deployed there is only that to tell. -/
theorem compareOne_of_none (h : d.book.deployedAddress? c.name = none) :
    d.compareOne deployed reference c =
      ⟨c.name, none, c.address, none, none, .notDeployed⟩ := by
  rw [compareOne, h]

theorem compareOne_of_some (h : d.book.deployedAddress? c.name = some address) :
    d.compareOne deployed reference c =
      let outcome := d.outcomeOf c.name (deployed address) (reference c.address)
      ⟨c.name, some address, c.address, sizeFor outcome (deployed address),
        sizeFor outcome (reference c.address), outcome⟩ := by
  rw [compareOne, h]

theorem name_compareOne (c : Contract) : (d.compareOne deployed reference c).name = c.name := by
  cases h : d.book.deployedAddress? c.name with
  | none => rw [compareOne_of_none h]
  | some address => rw [compareOne_of_some h]

/-- The reports of a run that go under the name of a contract. -/
theorem filter_run (s : σ) (c : Contract) :
    ((d.run deployed reference observe s).1.filter fun r => r.name == c.name) =
      [d.compareOne deployed reference c] := by
  have hname : ((fun r : ContractReport => r.name == c.name) ∘ d.compareOne deployed reference) =
      (· == c) := by
    funext e
    rw [Function.comp_apply, name_compareOne, Bool.eq_iff_iff, beq_iff_eq, beq_iff_eq]
    exact ⟨fun h => Contract.name_injective h, fun h => congrArg Contract.name h⟩
  have hone : Contract.all.filter (· == c) = [c] := by
    cases c <;> decide
  rw [run_eq, List.filter_map, hname, hone, List.map_singleton]

/-- The outcome of two codes. -/
theorem outcomeOf_ok (name : String) (code referenceCode : Text) :
    d.outcomeOf name (.ok code) (.ok referenceCode) =
      if body code = [] then .noCode .deployed
      else if body referenceCode = [] then .noCode .reference
      else .compared
        (Code.compareContract name code referenceCode d.registry Registry.canonical) := by
  simp only [outcomeOf, isEmptyCode, List.isEmpty_iff]

/-- The outcome of comparing a contract both of whose codes are there. -/
theorem outcome_compareOne {code referenceCode : Text}
    (haddress : d.book.deployedAddress? c.name = some address)
    (hdeployed : deployed address = .ok code) (hreference : reference c.address = .ok referenceCode)
    (hcode : body code ≠ []) (hreferenceCode : body referenceCode ≠ []) :
    (d.compareOne deployed reference c).outcome =
      .compared
        (Code.compareContract c.name code referenceCode d.registry Registry.canonical) := by
  rw [compareOne_of_some haddress]
  dsimp only
  rw [hdeployed, hreference, outcomeOf_ok, if_neg hcode, if_neg hreferenceCode]

end BytecodeParity.Deployment
