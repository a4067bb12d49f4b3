import Mathlib.Data.List.Forall2
import BytecodeParity.Proofs.Deployment
import BytecodeParity.Report.Summary
/-!
# What a run reports

A run asks two sources for two codes of every contract, and each source may know the code, may know
that there is none, or may fail. What comes of it is looked at in one order: first whether the
contract is deployed at all, then whether both sources answered, then whether both codes are there,
the deployed side before the reference in each case. `outcomeOf` is that order; the lemmas on it say
for every outcome when it is the one, and `Settled` puts them together for a report as a whole.

**Whatever the sources answer, a run has one settled report for each contract, in reporting order,
the observer has seen exactly these, and what is answered about one contract reaches the report on
another only if the two share an address** (`run_settled`).
-/

namespace BytecodeParity

open Hex

/-! ## Counting outcomes -/

namespace RunSummary

/-- The number of outcomes counted. -/
def total (s : RunSummary) : Nat := s.identical + s.differing + s.skipped + s.failed

/-- **Every outcome is counted, and once.** -/
theorem total_count (s : RunSummary) (o : Outcome) : (s.count o).total = s.total + 1 := by
  cases o with
  | notDeployed =>
    show s.identical + s.differing + (s.skipped + 1) + s.failed = s.total + 1
    rw [total]
    omega
  | noCode side => rfl
  | failed message => rfl
  | compared result =>
    rw [count]
    split
    · show s.identical + 1 + s.differing + s.skipped + s.failed = s.total + 1
      rw [total]
      omega
    · show s.identical + (s.differing + 1) + s.skipped + s.failed = s.total + 1
      rw [total]
      omega

theorem total_foldl_count (reports : List ContractReport) (s : RunSummary) :
    (reports.foldl (fun s r => s.count r.outcome) s).total = s.total + reports.length := by
  induction reports generalizing s with
  | nil => rfl
  | cons r reports ih =>
    rw [List.foldl_cons, ih, total_count, List.length_cons]
    omega

/-- The counts of a summary add up to the number of reports. -/
theorem total_ofReports (reports : List ContractReport) :
    (ofReports reports).total = reports.length := by
  rw [ofReports, total_foldl_count]
  exact Nat.zero_add _

end RunSummary

namespace Deployment

variable {d : Deployment} {name : String} {c : Contract} {deployed reference : Code.Source}
  {deployed' reference' : Code.Source} {address message : String} {code referenceCode : Text}
  {result : Comparison}

/-! ## The outcome of two answers -/

section Outcome

variable {x y : Except String Text}

theorem outcomeOf_ne_notDeployed : d.outcomeOf name x y ≠ .notDeployed := by
  intro h
  rw [outcomeOf.eq_def] at h
  split at h
  · cases h
  · cases h
  · split at h
    · cases h
    · split at h
      · cases h
      · cases h

/-- **A failure of the deployed side is what is told**, whatever the other side answers. -/
theorem outcomeOf_eq_failed_iff :
    d.outcomeOf name x y = .failed message ↔
      x = .error message ∨ (∃ code, x = .ok code) ∧ y = .error message := by
  cases x with
  | error m =>
    rw [outcomeOf, Outcome.failed.injEq, Except.error.injEq]
    constructor
    · exact Or.inl
    · rintro (h | ⟨⟨code, h⟩, -⟩)
      · exact h
      · cases h
  | ok code =>
    cases y with
    | error m =>
      rw [outcomeOf, Outcome.failed.injEq, Except.error.injEq]
      constructor
      · intro h
        exact Or.inr ⟨⟨code, rfl⟩, h⟩
      · rintro (h | ⟨-, h⟩)
        · cases h
        · exact h
    | ok referenceCode =>
      rw [outcomeOf]
      constructor
      · intro h
        split at h
        · cases h
        · split at h
          · cases h
          · cases h
      · rintro (h | ⟨-, h⟩)
        · cases h
        · cases h

/-- Any outcome but a failure comes of two codes. -/
theorem exists_ok_of_outcomeOf {o : Outcome} (h : d.outcomeOf name x y = o)
    (hnot : ∀ m, o ≠ .failed m) : ∃ code referenceCode, x = .ok code ∧ y = .ok referenceCode := by
  cases x with
  | error m => exact absurd h.symm (hnot m)
  | ok code =>
    cases y with
    | error m => exact absurd h.symm (hnot m)
    | ok referenceCode => exact ⟨code, referenceCode, rfl, rfl⟩

theorem outcomeOf_eq_noCode_deployed_iff :
    d.outcomeOf name x y = .noCode .deployed ↔
      ∃ code referenceCode, (x = .ok code ∧ y = .ok referenceCode) ∧ body code = [] := by
  constructor
  · intro h
    obtain ⟨code, referenceCode, rfl, rfl⟩ :=
      exists_ok_of_outcomeOf h fun m hm => nomatch hm
    refine ⟨code, referenceCode, ⟨rfl, rfl⟩, ?_⟩
    rw [outcomeOf_ok] at h
    split_ifs at h with hempty
    · exact hempty
    · cases h
  · rintro ⟨code, referenceCode, ⟨rfl, rfl⟩, hempty⟩
    rw [outcomeOf_ok, if_pos hempty]

theorem outcomeOf_eq_noCode_reference_iff :
    d.outcomeOf name x y = .noCode .reference ↔
      ∃ code referenceCode, (x = .ok code ∧ y = .ok referenceCode) ∧
        body code ≠ [] ∧ body referenceCode = [] := by
  constructor
  · intro h
    obtain ⟨code, referenceCode, rfl, rfl⟩ :=
      exists_ok_of_outcomeOf h fun m hm => nomatch hm
    refine ⟨code, referenceCode, ⟨rfl, rfl⟩, ?_⟩
    rw [outcomeOf_ok] at h
    split_ifs at h with hcode hempty
    · cases h
    · exact ⟨hcode, hempty⟩
  · rintro ⟨code, referenceCode, ⟨rfl, rfl⟩, hcode, hempty⟩
    rw [outcomeOf_ok, if_neg hcode, if_pos hempty]

theorem outcomeOf_eq_compared_iff :
    d.outcomeOf name x y = .compared result ↔
      ∃ code referenceCode, (x = .ok code ∧ y = .ok referenceCode) ∧
        (body code ≠ [] ∧ body referenceCode ≠ []) ∧
        result = Code.compareContract name code referenceCode d.registry Registry.canonical := by
  constructor
  · intro h
    obtain ⟨code, referenceCode, rfl, rfl⟩ :=
      exists_ok_of_outcomeOf h fun m hm => nomatch hm
    refine ⟨code, referenceCode, ⟨rfl, rfl⟩, ?_⟩
    rw [outcomeOf_ok] at h
    split_ifs at h with hcode hreference
    exact ⟨⟨hcode, hreference⟩, (Outcome.compared.inj h).symm⟩
  · rintro ⟨code, referenceCode, ⟨rfl, rfl⟩, ⟨hcode, hreference⟩, rfl⟩
    rw [outcomeOf_ok, if_neg hcode, if_neg hreference]

/-- The size of a code counts exactly if the code was compared. -/
theorem isSome_sizeFor (o : Outcome) (h : ∀ result, o = .compared result → ∃ code, x = .ok code) :
    (sizeFor o x).isSome ↔ ∃ result, o = .compared result := by
  cases o with
  | compared result =>
    obtain ⟨code, rfl⟩ := h result rfl
    exact iff_of_true rfl ⟨result, rfl⟩
  | notDeployed => exact iff_of_false Bool.false_ne_true fun ⟨_, h⟩ => nomatch h
  | noCode side => exact iff_of_false Bool.false_ne_true fun ⟨_, h⟩ => nomatch h
  | failed message => exact iff_of_false Bool.false_ne_true fun ⟨_, h⟩ => nomatch h

end Outcome

/-! ## The report on one contract -/

/-- A contract is deployed, and both sources have told its codes. -/
def Answered (d : Deployment) (deployed reference : Code.Source) (c : Contract)
    (code referenceCode : Text) : Prop :=
  ∃ address, d.book.deployedAddress? c.name = some address ∧
    deployed address = .ok code ∧ reference c.address = .ok referenceCode

/-- What a report says of a contract, from what the two sources answer for its two addresses and
from nothing else. -/
structure Settled (d : Deployment) (deployed reference : Code.Source) (c : Contract)
    (r : ContractReport) : Prop where
  name_eq : r.name = c.name
  referenceAddress_eq : r.referenceAddress = c.address
  deployedAddress_eq : r.deployedAddress = d.book.deployedAddress? c.name
  notDeployed_iff : r.outcome = .notDeployed ↔ d.book.deployedAddress? c.name = none
  /-- The message is that of the deployed side whenever that side failed. -/
  failed_iff : ∀ message, r.outcome = .failed message ↔
    ∃ address, d.book.deployedAddress? c.name = some address ∧
      (deployed address = .error message ∨
        (∃ code, deployed address = .ok code) ∧ reference c.address = .error message)
  noDeployedCode_iff : r.outcome = .noCode .deployed ↔
    ∃ code referenceCode, Answered d deployed reference c code referenceCode ∧ body code = []
  noReferenceCode_iff : r.outcome = .noCode .reference ↔
    ∃ code referenceCode, Answered d deployed reference c code referenceCode ∧
      body code ≠ [] ∧ body referenceCode = []
  compared_iff : ∀ result, r.outcome = .compared result ↔
    ∃ code referenceCode, Answered d deployed reference c code referenceCode ∧
      (body code ≠ [] ∧ body referenceCode ≠ []) ∧
      result = Code.compareContract c.name code referenceCode d.registry Registry.canonical
  deployedSize_isSome_iff : r.deployedSize.isSome ↔ ∃ result, r.outcome = .compared result
  referenceSize_isSome_iff : r.referenceSize.isSome ↔ ∃ result, r.outcome = .compared result
  /-- Sizes are those of the codes as they were told. -/
  sizes_eq : ∀ code referenceCode, Answered d deployed reference c code referenceCode →
    (∃ result, r.outcome = .compared result) →
      r.deployedSize = some (byteLength code) ∧ r.referenceSize = some (byteLength referenceCode)

theorem answered_iff (h : d.book.deployedAddress? c.name = some address) :
    Answered d deployed reference c code referenceCode ↔
      deployed address = .ok code ∧ reference c.address = .ok referenceCode := by
  simp only [Answered, h, Option.some.injEq, exists_eq_left']

theorem not_answered (h : d.book.deployedAddress? c.name = none) :
    ¬ Answered d deployed reference c code referenceCode := by
  rintro ⟨address, haddress, -⟩
  rw [h] at haddress
  cases haddress

/-- Of a contract that is not deployed nobody is asked anything. -/
theorem settled_of_none (h : d.book.deployedAddress? c.name = none) :
    Settled d deployed reference c ⟨c.name, none, c.address, none, none, .notDeployed⟩ where
  name_eq := rfl
  referenceAddress_eq := rfl
  deployedAddress_eq := h.symm
  notDeployed_iff := iff_of_true rfl h
  failed_iff message := by simp [h]
  noDeployedCode_iff := by simp [not_answered h]
  noReferenceCode_iff := by simp [not_answered h]
  compared_iff result := by simp [not_answered h]
  deployedSize_isSome_iff := by simp
  referenceSize_isSome_iff := by simp
  sizes_eq _ _ hanswered := absurd hanswered (not_answered h)

/-- **The report on a contract is settled**, whatever the sources answer. -/
theorem settled_compareOne (d : Deployment) (deployed reference : Code.Source) (c : Contract) :
    Settled d deployed reference c (d.compareOne deployed reference c) := by
  cases h : d.book.deployedAddress? c.name with
  | none =>
    rw [compareOne_of_none h]
    exact settled_of_none h
  | some address =>
    rw [compareOne_of_some h]
    -- A comparison has both codes.
    have hcodes : ∀ result,
        d.outcomeOf c.name (deployed address) (reference c.address) = .compared result →
        ∃ code referenceCode,
          deployed address = .ok code ∧ reference c.address = .ok referenceCode := by
      intro result hresult
      obtain ⟨code, referenceCode, hanswers, -⟩ := outcomeOf_eq_compared_iff.mp hresult
      exact ⟨code, referenceCode, hanswers⟩
    exact
      { name_eq := rfl
        referenceAddress_eq := rfl
        deployedAddress_eq := h.symm
        notDeployed_iff := by
          rw [h]
          exact iff_of_false outcomeOf_ne_notDeployed (Option.some_ne_none address)
        failed_iff := fun message => by
          simp only [h, Option.some.injEq, exists_eq_left']
          exact outcomeOf_eq_failed_iff
        noDeployedCode_iff := by
          simp only [answered_iff h]
          exact outcomeOf_eq_noCode_deployed_iff
        noReferenceCode_iff := by
          simp only [answered_iff h]
          exact outcomeOf_eq_noCode_reference_iff
        compared_iff := fun result => by
          simp only [answered_iff h]
          exact outcomeOf_eq_compared_iff
        deployedSize_isSome_iff := isSome_sizeFor _ fun result hresult => by
          obtain ⟨code, -, hcode, -⟩ := hcodes result hresult
          exact ⟨code, hcode⟩
        referenceSize_isSome_iff := isSome_sizeFor _ fun result hresult => by
          obtain ⟨-, code, -, hcode⟩ := hcodes result hresult
          exact ⟨code, hcode⟩
        sizes_eq := by
          rintro code referenceCode hanswered ⟨result, hresult⟩
          obtain ⟨hcode, hreference⟩ := (answered_iff h).mp hanswered
          dsimp only at hresult ⊢
          rw [hresult, hcode, hreference]
          exact ⟨rfl, rfl⟩ }

/-- **What a report depends on**: the answers for the two addresses of its contract, and if the
contract is not deployed, no answer at all. -/
theorem compareOne_congr
    (h : ∀ address, d.book.deployedAddress? c.name = some address →
      deployed' address = deployed address ∧ reference' c.address = reference c.address) :
    d.compareOne deployed' reference' c = d.compareOne deployed reference c := by
  cases haddress : d.book.deployedAddress? c.name with
  | none => rw [compareOne_of_none haddress, compareOne_of_none haddress]
  | some address =>
    obtain ⟨hdeployed, hreference⟩ := h address haddress
    rw [compareOne_of_some haddress, compareOne_of_some haddress, hdeployed, hreference]

/-! ## The reports of a run -/

/-- **What a run reports.** There is one report for each contract, in reporting order, and each is
settled; the observer has seen exactly these, in this order; other answers about other addresses, as
well as another observer, leave a report as it is; and the counts of the summary add up. -/
theorem run_settled {σ : Type} (d : Deployment) (deployed reference : Code.Source)
    (observe : σ → ContractReport → σ) (s : σ) :
    let run := d.run deployed reference observe s
    let summary := RunSummary.ofReports run.1
    List.Forall₂ (Settled d deployed reference) Contract.all run.1 ∧
    run.2 = run.1.foldl observe s ∧
    (∀ (i : Nat) (c : Contract), Contract.all[i]? = some c →
      ∀ (deployed' reference' : Code.Source) (τ : Type) (observe' : τ → ContractReport → τ) (t : τ),
        (∀ address, d.book.deployedAddress? c.name = some address →
          deployed' address = deployed address ∧ reference' c.address = reference c.address) →
        (d.run deployed' reference' observe' t).1[i]? = run.1[i]?) ∧
    summary.identical + summary.differing + summary.skipped + summary.failed = run.1.length := by
  intro run summary
  have htotal : summary.total = run.1.length := RunSummary.total_ofReports run.1
  have hrun : run = _ := run_eq s
  refine ⟨?_, ?_, ?_, htotal⟩
  · rw [hrun, List.forall₂_map_right_iff, List.forall₂_same]
    intro c _
    exact settled_compareOne d deployed reference c
  · rw [hrun]
  · intro i c hc deployed' reference' τ observe' t hagree
    rw [run_eq, hrun, List.getElem?_map, List.getElem?_map, hc, Option.map_some, Option.map_some,
      compareOne_congr hagree]

/-- Two sources of which one fails for the quoter and the other for everything: the quoter is
reported with the message of the deployed side, and so it is if the deployed side fails for another
contract as well. -/
theorem run_settled_quoter :
    let d : Deployment :=
      ⟨.mainnet, 1, "", { AddressBook.empty with
        contracts := [("QuoterV2", "0x11"), ("TickLens", "0x22")] }, "ff".toList⟩
    let reference : Code.Source := fun _ => .error "unreachable"
    let deployed : Code.Source := fun a => if a = "0x11" then .error "refused" else .ok ['0', 'x']
    let deployed' : Code.Source := fun a => .error (if a = "0x11" then "refused" else "timeout")
    let run := d.run deployed reference (fun n _ => n + 1) 0
    (∀ r ∈ run.1[8]?, r.outcome = .failed "refused") ∧ run.1.length = 11 ∧
      (d.run deployed' reference (fun n _ => n + 1) 0).1[8]? = run.1[8]? := by
  intro d reference deployed deployed' run
  obtain ⟨hsettled, -, hother, -⟩ := run_settled d deployed reference (fun n _ => n + 1) 0
  have haddress : d.book.deployedAddress? Contract.quoter.name = some "0x11" := by decide +kernel
  refine ⟨?_, hsettled.length_eq.symm, ?_⟩
  · intro r hr
    obtain ⟨hi, hr⟩ := List.getElem?_eq_some_iff.mp hr
    have hquoter := (List.forall₂_iff_get.mp hsettled).2 8 (by decide) hi
    rw [List.get_eq_getElem, List.get_eq_getElem, hr] at hquoter
    exact (hquoter.failed_iff "refused").mpr ⟨"0x11", haddress, Or.inl rfl⟩
  · refine hother 8 .quoter rfl deployed' reference Nat _ 0 ?_
    intro address h
    rw [haddress] at h
    obtain rfl := Option.some.inj h
    exact ⟨rfl, rfl⟩

end Deployment

end BytecodeParity
