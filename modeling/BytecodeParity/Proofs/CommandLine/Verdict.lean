import BytecodeParity.Proofs.CommandLine.Reading
import BytecodeParity.Proofs.Report.Digest
import BytecodeParity.Proofs.Report.JsonText
/-!
# The verdict on two codes

The command that compares two codes reads its inputs one after the other, and the first that cannot
be had ends it. `Compared` says what all of them are and what result they lead to, without an order;
that the command has this result exactly if `Compared` holds is `result_eq_ok_iff`.

**The exit status is the verdict** (`status_eq_zero_iff_accepted`): it is zero exactly if there is a
result and the result is accepted, and one in all other cases. How the result is to be printed has a
say in neither. In both forms the result is read from what is printed (`Shown`), and so is the
number of differences behind one that is not accepted.
-/

namespace BytecodeParity

open Report
open Comparison (Verdict)

namespace Diff

variable {fs : Files.Tree} {o : Options} {argument : String} {code : Text} {c : Comparison}

/-! ## Inputs -/

/-- The code that an argument stands for, blanks around it left out: what is in the file of the path
behind an at sign, and any other argument itself. -/
inductive StandsFor (fs : Files.Tree) (argument : String) : Text → Prop
  | file {path content : String} (hpath : argument.toList = '@' :: path.toList)
    (hcontent : fs.readText path = .ok content) : StandsFor fs argument (Text.trim content.toList)
  | literal (h : argument.toList.head? ≠ some '@') :
    StandsFor fs argument (Text.trim argument.toList)

theorem readCode_eq_ok_iff : readCode fs argument = .ok code ↔ StandsFor fs argument code := by
  constructor
  · intro h
    rw [readCode] at h
    split at h
    next path hargument =>
      split at h
      next content hcontent =>
        obtain rfl := Except.ok.inj h
        exact .file (by rw [hargument, String.toList_ofList]) hcontent
      · cases h
    next hargument =>
      obtain rfl := Except.ok.inj h
      refine .literal fun hhead => ?_
      obtain ⟨path, hpath⟩ := List.head?_eq_some_iff.mp hhead
      exact hargument path hpath
  · intro h
    cases h with
    | file hpath hcontent => simp only [readCode, hpath, String.ofList_toList, hcontent]
    | literal h =>
      rw [readCode]
      split
      next path hargument =>
        rw [hargument] at h
        exact absurd rfl h
      · rfl

/-- A name is let pass if there is none or a canonical contract has it. -/
theorem checkContract_eq_ok_iff {name : String} {u : Unit} :
    checkContract name = .ok u ↔ name = "" ∨ ∃ contract ∈ Contract.all, contract.name = name := by
  have hknown : (Contract.ofName? name).isSome = true ↔
      ∃ contract ∈ Contract.all, contract.name = name := by
    simp [Contract.ofName?, List.find?_isSome]
  rw [checkContract, ← hknown]
  split
  next h => exact iff_of_true rfl h
  next h => exact iff_of_false (fun hok => nomatch hok) h

/-- The contracts that are known from an address book, none if there is no book. -/
inductive KnownFrom (fs : Files.Tree) : Option String → OrderedMap String String → Prop
  | nowhere : KnownFrom fs none []
  | book {path : String} {book : AddressBook} (h : AddressBook.ofFile fs path = .ok book) :
    KnownFrom fs (some path) book.contracts

theorem readContracts_eq_ok_iff {addresses : Option String} {contracts : OrderedMap String String} :
    readContracts fs addresses = .ok contracts ↔ KnownFrom fs addresses contracts := by
  constructor
  · intro h
    cases addresses with
    | none =>
      obtain rfl := Except.ok.inj h
      exact .nowhere
    | some path =>
      rw [readContracts] at h
      cases hbook : AddressBook.ofFile fs path with
      | error f =>
        rw [hbook] at h
        cases h
      | ok book =>
        rw [hbook] at h
        obtain rfl := Except.ok.inj h
        exact .book hbook
  · rintro (_ | hbook)
    · rfl
    · rw [readContracts, hbook]
      rfl

/-! ## The result -/

/-- The inputs can all be had, and this is the result of comparing the codes among them. -/
structure Compared (fs : Files.Tree) (o : Options) (c : Comparison) : Prop where
  named : o.contract = "" ∨ ∃ contract ∈ Contract.all, contract.name = o.contract
  result : ∃ deployed reference contracts,
    StandsFor fs o.deployed deployed ∧ StandsFor fs o.reference reference ∧
      KnownFrom fs o.addresses contracts ∧
      c = Code.compareContract o.contract deployed reference
        (Registry.ofDeployment contracts (o.poolInitCodeHash.getD WellKnown.poolInitCodeHash))
        Registry.canonical

/-- **There is a result exactly if all inputs can be had**, and it is that of comparing them. -/
theorem result_eq_ok_iff : result fs o = .ok c ↔ Compared fs o c := by
  simp only [result, bind_eq_ok_iff, readCode_eq_ok_iff, checkContract_eq_ok_iff,
    readContracts_eq_ok_iff, Except.ok.injEq]
  constructor
  · rintro ⟨deployed, hdeployed, reference, hreference, -, hnamed, contracts, hcontracts, rfl⟩
    exact ⟨hnamed, deployed, reference, contracts, hdeployed, hreference, hcontracts, rfl⟩
  · rintro ⟨hnamed, deployed, reference, contracts, hdeployed, hreference, hcontracts, rfl⟩
    exact ⟨deployed, hdeployed, reference, hreference, (), hnamed, contracts, hcontracts, rfl⟩

theorem Compared.unique {c' : Comparison} (h : Compared fs o c) (h' : Compared fs o c') :
    c = c' := by
  rw [← result_eq_ok_iff] at h h'
  exact Except.ok.inj (h.symm.trans h')

/-- The options with another printed form. -/
def Options.inForm (form : Bool) (o : Options) : Options := { o with json := form }

/-- Which result there is does not depend on how it is to be printed. -/
theorem compared_inForm_iff (form : Bool) : Compared fs (o.inForm form) c ↔ Compared fs o c := by
  rw [← result_eq_ok_iff, ← result_eq_ok_iff]
  rfl

/-- These lines show a result in the form asked for. Whoever reads them is told the verdict, or the
whole result where it is JSON. -/
inductive Shown (colours : Bool) (o : Options) (c : Comparison) : List String → Prop
  | lines {lines : List String} {v : Verdict} (hform : o.json = false)
    (hread : Verdict.read? colours lines = some v) (hv : v.Accounts c o.contract) :
    Shown colours o c lines
  | json {text : String} (hform : o.json = true) (htext : c.ToldBy text.toList) :
    Shown colours o c [text]

theorem shown_print (colours : Bool) (o : Options) (c : Comparison) :
    Shown colours o c (print colours o c) := by
  cases hform : o.json with
  | false =>
    obtain ⟨v, hread, hv⟩ := Verdict.exists_read?_lines colours o.contract c
    rw [print, hform]
    exact .lines hform hread hv
  | true =>
    rw [print, hform]
    exact .json hform c.toldBy_pretty

/-! ## The verdict -/

/-- A result is accepted if it shows no difference, or if differences of the contract are accepted
beforehand and this was asked for. -/
def Accepted (o : Options) (c : Comparison) : Prop :=
  c.identical = true ∨ o.allowExpected = true ∧ (expectedDifference? o.contract).isSome = true

theorem accepts_iff : accepts o c = true ↔ Accepted o c := by
  rw [accepts, Bool.or_eq_true, Bool.and_eq_true, and_comm, Accepted]

/-- A comparison without differences shows equal codes. -/
theorem identical_compareContract (name : String) (d r : Text) (deployed reference : Registry) :
    (Code.compareContract name d r deployed reference).identical =
      (Code.compareContract name d r deployed reference).differences.isEmpty := by
  simp only [Code.compareContract, Code.compare]

/-- A result that is not accepted shows a difference. -/
theorem differences_ne_nil (h : Compared fs o c) (hnot : ¬ Accepted o c) : c.differences ≠ [] := by
  obtain ⟨-, deployed, reference, contracts, -, -, -, rfl⟩ := h
  refine fun hnil => hnot (Or.inl ?_)
  rw [identical_compareContract, hnil]
  rfl

variable {w : World}

theorem run_of_compared (h : Compared w.files o c) :
    run w o =
      { lines := print (Style.forcedBy w.environment) o c
        failure := if accepts o c then none else some (.codesDiffer c.differences.length)
        files := w.files
        environment := w.environment } := by
  rw [run, result_eq_ok_iff.mpr h]

/-- Without a result there is a failure. -/
theorem exists_run_of_not_compared (h : ¬ ∃ c, Compared w.files o c) :
    ∃ f, run w o = ⟨[], some f, w.files, w.environment⟩ := by
  cases hresult : result w.files o with
  | ok c => exact absurd ⟨c, result_eq_ok_iff.mp hresult⟩ h
  | error f => exact ⟨f, by rw [run, hresult]⟩

/-- Whether there is a failure, and which, does not depend on the printed form. -/
theorem failure_run_inForm (form : Bool) :
    (run w (o.inForm form)).failure = (run w o).failure := by
  have hresult : result w.files (o.inForm form) = result w.files o := rfl
  rw [run, run, hresult]
  cases result w.files o with
  | ok c => rfl
  | error f => rfl

end Diff

namespace Program

open Arguments Diff

variable {w : World} {arguments : List String} {above given : Given} {c : Comparison}

/-- The number of differences that the last line tells on a result that is not accepted. -/
def differing? (colours : Bool) (line : String) : Option Nat :=
  numberBetween? (coloured colours "33" "Error. Comparison failed:" ++ " " ++ lit colours "33")
    (" byte(s) differ." ++ unlit colours) line

/-- The line with which the program ends on a result that is not accepted. -/
def differLine (colours : Bool) (count : Nat) : String :=
  Style.yellow.paint colours comparisonFailed ++ " " ++
    Style.yellow.paint colours (toString count ++ " byte(s) differ.")

theorem differing?_differLine (colours : Bool) (count : Nat) :
    differing? colours (differLine colours count) = some count := by
  have hcount : '\x1b' ∉ (toString count ++ " byte(s) differ.").toList :=
    escape_notMem count (by decide)
  have hline : differLine colours count =
      coloured colours "33" "Error. Comparison failed:" ++ " " ++ lit colours "33" ++
        (toString count ++ (" byte(s) differ." ++ unlit colours)) := by
    rw [differLine, comparisonFailed, paint_eq_coloured .yellow "33" (by decide) rfl,
      paint_eq_coloured .yellow "33" hcount rfl]
    unfold coloured
    simp only [String.append_assoc]
  rw [differing?, hline]
  exact numberBetween?_append (by simp)

/-- The program on a command line that asks for two codes to be compared. -/
theorem runComparing_diff
    (h : readComparing w.files arguments = .ok (above, some ("diff", given))) :
    runComparing w arguments = ended comparisonFailed (Diff.run w (diffOptions given)) :=
  runComparing_of_read h

theorem status_of_compared (h : readComparing w.files arguments = .ok (above, some ("diff", given)))
    (hc : Compared w.files (diffOptions given) c) :
    (runComparing w arguments).status = 0 ↔ Accepted (diffOptions given) c := by
  rw [runComparing_diff h, run_of_compared hc, ← accepts_iff, status_ended,
    Ending.status_eq_zero_iff]
  simp

/-- **What is printed of a result**, and behind it, if it is not accepted, how many bytes differ. -/
theorem prints_of_compared (h : readComparing w.files arguments = .ok (above, some ("diff", given)))
    (hc : Compared w.files (diffOptions given) c) :
    Prints (print (Style.forcedBy w.environment) (diffOptions given) c ++
      if (runComparing w arguments).status = 0 then []
      else [differLine (Style.forcedBy w.environment) c.differences.length])
      (runComparing w arguments).stdout := by
  have hexit := runComparing_diff h
  rw [run_of_compared hc] at hexit
  by_cases hstatus : (runComparing w arguments).status = 0
  · rw [if_pos hstatus, hexit, if_pos (accepts_iff.mpr ((status_of_compared h hc).mp hstatus))]
    exact prints_printed _
  · rw [if_neg hstatus, hexit,
      if_neg (mt accepts_iff.mp (mt (status_of_compared h hc).mpr hstatus))]
    exact prints_printed _

/-- A value that the command requires was given. -/
theorem value?_of_required (h : readComparing w.files arguments = .ok (above, some ("diff", given)))
    {p : Parameter} (hp : p ∈ comparingCodes.options) (hrequired : p.required = true) :
    value? given p.name = some ((value? given p.name).getD "") := by
  have hgiven : (value? given p.name).isSome = true := isSome_of_readWithCommands h hp hrequired
  obtain ⟨v, hv⟩ := Option.isSome_iff_exists.mp hgiven
  rw [hv, Option.getD_some]

/-- Two command lines that differ in the printed form come to the same status. -/
theorem status_of_form (h : readComparing w.files arguments = .ok (above, some ("diff", given)))
    {arguments' : List String} {above' given' : Given}
    (h' : readComparing w.files arguments' = .ok (above', some ("diff", given')))
    (hform : (diffOptions given').inForm (diffOptions given).json = diffOptions given) :
    (runComparing w arguments').status = (runComparing w arguments).status := by
  rw [runComparing_diff h, runComparing_diff h', ← hform, status_ended, status_ended,
    Ending.status, Ending.status, failure_run_inForm]

end Program

end BytecodeParity
