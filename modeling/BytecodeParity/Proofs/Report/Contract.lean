import BytecodeParity.Proofs.Report.Digest
import BytecodeParity.Proofs.Report.Grouping
import BytecodeParity.Proofs.Run
/-!
# What the sections of a run tell

A run prints a section on each contract and one on pool init code hashes. From the section on a
contract its name, its addresses and what became of it are read (`section?`), down to the
differences if its codes were compared, and from the section on hashes which hash was found in which
contract (`hashes?`). **What is read is what the reports say** (`exists_section?_lines`,
`hashes?_hashLines`).

The lines on failures hold messages of any kind. That does no harm, since nothing is looked for
behind a message and a section is not read beyond its end.
-/

namespace BytecodeParity.Report

open Comparison (Verdict)

variable {colours : Bool}

/-! ## Reading a section on a contract -/

/-- What a section tells to have become of a contract. -/
inductive Fate where
  | notDeployed (network : String)
  | noCode (side : Side)
  | failed (message : String)
  | compared (deployedSize referenceSize : Nat) (verdict : Verdict)
  deriving DecidableEq

/-- What a section tells about a contract. -/
structure ContractSection where
  name : String
  /-- The addresses of the contract and of its counterpart, if it is deployed. -/
  addresses : Option (String × String)
  fate : Fate
  deriving DecidableEq

/-- The size that a line tells, commas left out. -/
def size? (front line : String) : Option Nat := do
  let (size, rest) ← number? ((← between? front " bytes" line).toList.filter (· ≠ ','))
  if rest = [] then some size else none

/-- The side of a name. -/
def side? (name : String) : Option Side :=
  if name = "deployed" then some .deployed
  else if name = "reference" then some .reference
  else none

/-- A line of a comparison without its indentation. -/
def indented? (line : String) : Option String := (behind? "      " line).map String.ofList

/-- Reads the lines about what became of a contract that has an address. -/
def fate? (colours : Bool) : List String → Option Fate
  | [line] =>
    match behind? ("   " ++ coloured colours "31" "[ERROR]" ++ " ") line with
    | some message => some (.failed (String.ofList message))
    | none => do
      let warning := "   " ++ coloured colours "33" "[WARN]" ++ " "
      return .noCode (← side? (← between? warning " contract has no code" line))
  | deployed :: reference :: _ :: _ :: lines => do
    let deployedSize ← size? "   Deployed size:  " deployed
    let referenceSize ← size? "   Reference size: " reference
    let (told, rest) := takeAll indented? lines
    let verdict ← Verdict.read? colours told
    if rest = [] then some (.compared deployedSize referenceSize verdict) else none
  | _ => none

/-- Reads the section on a contract. -/
def section? (colours : Bool) : List String → Option ContractSection
  | _ :: _ :: title :: [line] => do
    let name ← between? ("[CONTRACT] " ++ lit colours "1") (unlit colours) title
    let network ← behind? ("   " ++ coloured colours "33" "[SKIP]" ++ " Not deployed on ") line
    some ⟨name, none, .notDeployed (String.ofList network)⟩
  | _ :: _ :: title :: deployed :: reference :: _ :: lines => do
    let name ← between? ("[CONTRACT] " ++ lit colours "1") (unlit colours) title
    let deployed ← behind? "   Deployed:  " deployed
    let reference ← behind? "   Reference: " reference
    some ⟨name, some (String.ofList deployed, String.ofList reference), ← fate? colours lines⟩
  | _ => none

/-! ## What a section tells -/

variable {network : String} {r : ContractReport}

/-- What is told of a contract is what its report says. -/
inductive Fate.Tells (network : String) (r : ContractReport) : Fate → Prop
  | notDeployed (h : r.outcome = .notDeployed) : Tells network r (.notDeployed network)
  | noCode {side : Side} (h : r.outcome = .noCode side) : Tells network r (.noCode side)
  | failed {message : String} (h : r.outcome = .failed message) : Tells network r (.failed message)
  | compared {result : Comparison} {deployedSize referenceSize : Nat} {v : Verdict}
    (h : r.outcome = .compared result) (hdeployed : r.deployedSize = some deployedSize)
    (hreference : r.referenceSize = some referenceSize) (hv : v.Accounts result r.name) :
    Tells network r (.compared deployedSize referenceSize v)

/-- A section tells of a contract what its report says. -/
structure ContractSection.Tells (network : String) (r : ContractReport) (s : ContractSection) :
    Prop where
  name_eq : s.name = r.name
  addresses_eq : s.addresses = r.deployedAddress.map fun a => (a, r.referenceAddress)
  fate : s.fate.Tells network r

theorem size?_formatSize (front : String) (n : Nat) :
    size? front (front ++ formatSize n ++ " bytes") = some n := by
  have hfilter : (formatSize n).toList.filter (· ≠ ',') = Nat.toDigits 10 n := by
    simpa using (grouped_formatSize n).without_commas
  rw [String.append_assoc, size?, between?_append]
  simp only [bind, Option.bind, hfilter, number?_toDigits_nil]
  rfl

theorem side?_name (side : Side) : side? side.name = some side := by
  cases side <;> decide

theorem takeAll_indented (lines : List String) :
    takeAll indented? (lines.map fun l => "      " ++ l) = (lines, []) := by
  have h : takeAll indented? ((lines.map fun l => "      " ++ l) ++ []) = (lines.map id, []) :=
    takeAll_print lines (fun l _ => by simp [indented?, behind?_append]) (by simp)
  rwa [List.append_nil, List.map_id] at h

theorem diverge_failed (colours : Bool) :
    Diverge ("   " ++ coloured colours "31" "[ERROR]" ++ " ")
      ("   " ++ coloured colours "33" "[WARN]" ++ " ") := by
  cases colours <;> decide

/-- **What became of a contract is read from the lines about it.** -/
theorem exists_fate?_outcomeLines (colours : Bool) (network : String)
    (hdeployed : r.outcome ≠ .notDeployed)
    (hsizes : ∀ result, r.outcome = .compared result →
      ∃ d s, r.deployedSize = some d ∧ r.referenceSize = some s) :
    ∃ f, fate? colours (r.outcomeLines colours) = some f ∧ f.Tells network r := by
  cases houtcome : r.outcome with
  | notDeployed => exact absurd houtcome hdeployed
  | noCode side =>
    refine ⟨.noCode side, ?_, .noCode houtcome⟩
    have hline : r.outcomeLines colours = ["   " ++ coloured colours "33" "[WARN]" ++ " " ++
        (side.name ++ " contract has no code")] := by
      rw [ContractReport.outcomeLines, houtcome]
      dsimp only
      rw [paint_eq_coloured .yellow "33" (by decide) rfl, ← String.append_assoc]
    rw [hline, fate?, behind?_of_diverge (diverge_failed colours)]
    simp only [between?_append, bind, Option.bind, side?_name]
    rfl
  | failed message =>
    refine ⟨.failed message, ?_, .failed houtcome⟩
    have hline : r.outcomeLines colours =
        ["   " ++ coloured colours "31" "[ERROR]" ++ " " ++ message] := by
      rw [ContractReport.outcomeLines, houtcome]
      dsimp only
      rw [paint_eq_coloured .red "31" (by decide) rfl]
    rw [hline, fate?, behind?_append]
    simp
  | compared result =>
    obtain ⟨d, s, hd, hs⟩ := hsizes result houtcome
    obtain ⟨v, hread, hv⟩ := Verdict.exists_read?_lines colours r.name result
    refine ⟨.compared d s v, ?_, .compared houtcome hd hs hv⟩
    -- Without their indentation the lines behind the sizes are those of the comparison.
    have hlines : r.outcomeLines colours =
        ("   Deployed size:  " ++ formatSize d ++ " bytes") ::
        ("   Reference size: " ++ formatSize s ++ " bytes") :: "" ::
        "   [COMPARISON] (metadata stripped, immutables masked):" ::
        (result.lines colours r.name).map fun l => "      " ++ l := by
      simp [ContractReport.outcomeLines, houtcome, ContractReport.sizeLines, hd, hs]
    rw [hlines, fate?, size?_formatSize, size?_formatSize, takeAll_indented]
    simp only [bind, Option.bind, hread]
    rfl

theorem between?_title {name : String} (h : '\x1b' ∉ name.toList) :
    between? ("[CONTRACT] " ++ lit colours "1") (unlit colours)
      ("[CONTRACT] " ++ Style.bold.paint colours name) = some name := by
  rw [paint_eq_coloured .bold "1" h rfl, coloured, String.append_assoc, ← String.append_assoc]
  exact between?_append name

/-- **What the section on a contract tells is what its report says.** -/
theorem exists_section?_lines (colours : Bool) (network : String) {d : Deployment}
    {deployed reference : Code.Source} {c : Contract} (h : d.Settled deployed reference c r) :
    ∃ s, section? colours (r.lines colours network) = some s ∧ s.Tells network r := by
  have htitle : between? ("[CONTRACT] " ++ lit colours "1") (unlit colours)
      ("[CONTRACT] " ++ Style.bold.paint colours r.name) = some r.name := by
    apply between?_title
    rw [h.name_eq]
    cases c <;> decide
  cases haddress : r.deployedAddress with
  | none =>
    have houtcome : r.outcome = .notDeployed :=
      h.notDeployed_iff.mpr (h.deployedAddress_eq.symm.trans haddress)
    refine ⟨⟨r.name, none, .notDeployed network⟩, ?_, rfl, ?_, .notDeployed houtcome⟩
    · rw [ContractReport.lines, haddress, paint_eq_coloured .yellow "33" (by decide) rfl]
      simp only [List.cons_append, List.nil_append, section?, htitle, behind?_append, bind,
        Option.bind, String.ofList_toList]
    · rw [haddress]
      rfl
  | some address =>
    have houtcome : r.outcome ≠ .notDeployed := by
      rw [Ne, h.notDeployed_iff, ← h.deployedAddress_eq, haddress]
      exact Option.some_ne_none address
    obtain ⟨f, hread, hf⟩ := exists_fate?_outcomeLines colours network houtcome
      fun result hresult => by
        obtain ⟨d, hd⟩ := Option.isSome_iff_exists.mp (h.deployedSize_isSome_iff.mpr ⟨_, hresult⟩)
        obtain ⟨s, hs⟩ := Option.isSome_iff_exists.mp (h.referenceSize_isSome_iff.mpr ⟨_, hresult⟩)
        exact ⟨d, s, hd, hs⟩
    refine ⟨⟨r.name, some (address, r.referenceAddress), f⟩, ?_, rfl, ?_, hf⟩
    · rw [ContractReport.lines, haddress]
      simp only [List.cons_append, List.nil_append, section?, htitle, behind?_append, hread, bind,
        Option.bind, String.ofList_toList]
    · rw [haddress]
      rfl

/-! ## The section on hashes -/

/-- The report between the tag of a line and what stands behind the name. -/
def tagged? (tag line : String) (read : Text → Option (Except String HashLocation)) :
    Option HashReport := do
  let t ← behind? ("   " ++ tag ++ " ") line
  let (name, told) ← t.dropInfix? ": ".toList
  return ⟨String.ofList name, ← read told⟩

/-- Where a hash was found. -/
def foundAt? (t : Text) : Option (Except String HashLocation) := do
  let (byte, rest) ← number? (← t.dropPrefix? "deployment hash found at byte ".toList)
  if rest = [] then some (.ok (.found byte)) else none

/-- A result that is told in these words. -/
def toldBy? (words : String) (result : HashLocation) (t : Text) :
    Option (Except String HashLocation) :=
  if t = words.toList then some (.ok result) else none

/-- Which hash a line tells to be in a contract. -/
def hash? (colours : Bool) (line : String) : Option HashReport :=
  tagged? (coloured colours "32" "[PASS]") line foundAt? <|>
    tagged? (coloured colours "31" "[FAIL]") line
      (toldBy? "WRONG! Reference hash found instead" .referenceFound) <|>
    tagged? (coloured colours "33" "[WARN]") line (toldBy? "Neither hash found" .missing) <|>
    tagged? (coloured colours "31" "[ERROR]") line fun t => some (.error (String.ofList t))

/-- Reads the section on hashes. -/
def hashes? (colours : Bool) : List String → Option (List HashReport)
  | _ :: _ :: title :: _ :: lines =>
    let (reports, rest) := takeAll (hash? colours) lines
    if title = "POOL_INIT_CODE_HASH VERIFICATION" ∧ rest = [] then some reports else none
  | _ => none

variable {tag other name told : String} {read : Text → Option (Except String HashLocation)}
  {result : Except String HashLocation}

theorem tagged?_append (hname : ¬ ": ".toList <:+: name.toList)
    (hread : read told.toList = some result) :
    tagged? tag ("   " ++ tag ++ " " ++ (name ++ ": " ++ told)) read = some ⟨name, result⟩ := by
  have hcut : (name ++ ": " ++ told).toList.dropInfix? ": ".toList =
      some (name.toList, told.toList) := by
    rw [String.toList_append, String.toList_append]
    exact dropInfix?_append (by decide) hname told.toList
  simp only [tagged?, behind?_append, hcut, hread, bind, Option.bind, String.ofList_toList]
  rfl

theorem tagged?_of_diverge (h : Diverge ("   " ++ tag ++ " ") ("   " ++ other ++ " "))
    (t : String) : tagged? tag ("   " ++ other ++ " " ++ t) read = none := by
  rw [tagged?, behind?_of_diverge h]
  rfl

theorem foundAt?_append (byte : Nat) :
    foundAt? ("deployment hash found at byte " ++ toString byte).toList =
      some (.ok (.found byte)) := by
  have hbehind : ("deployment hash found at byte " ++ toString byte).toList.dropPrefix?
      "deployment hash found at byte ".toList = some (Nat.toDigits 10 byte) := by
    rw [String.toList_append, Nat.toString_eq_repr, Nat.toList_repr]
    exact dropPrefix?_append _ _
  simp only [foundAt?, hbehind, number?_toDigits_nil, bind, Option.bind]
  rfl

/-- No tag of a line on hashes goes on from another. -/
theorem diverge_tags (colours : Bool) :
    [("32", "[PASS]"), ("31", "[FAIL]"), ("33", "[WARN]"), ("31", "[ERROR]")].Pairwise fun a b =>
      Diverge ("   " ++ coloured colours a.1 a.2 ++ " ")
        ("   " ++ coloured colours b.1 b.2 ++ " ") := by
  cases colours <;> decide

/-- The colour, the tag and the words of a line on a hash. -/
def wording : Except String HashLocation → String × String × String
  | .ok (.found byte) => ("32", "[PASS]", "deployment hash found at byte " ++ toString byte)
  | .ok .referenceFound => ("31", "[FAIL]", "WRONG! Reference hash found instead")
  | .ok .missing => ("33", "[WARN]", "Neither hash found")
  | .error message => ("31", "[ERROR]", message)

theorem line_eq (colours : Bool) (r : HashReport) :
    r.line colours = "   " ++ coloured colours (wording r.result).1 (wording r.result).2.1 ++ " " ++
      (r.name ++ ": " ++ (wording r.result).2.2) := by
  have hpass : Style.green.paint colours "[PASS]" = coloured colours "32" "[PASS]" :=
    paint_eq_coloured .green "32" (by decide) rfl
  have hfail : Style.red.paint colours "[FAIL]" = coloured colours "31" "[FAIL]" :=
    paint_eq_coloured .red "31" (by decide) rfl
  have hwarn : Style.yellow.paint colours "[WARN]" = coloured colours "33" "[WARN]" :=
    paint_eq_coloured .yellow "33" (by decide) rfl
  have herror : Style.red.paint colours "[ERROR]" = coloured colours "31" "[ERROR]" :=
    paint_eq_coloured .red "31" (by decide) rfl
  obtain ⟨name, result⟩ := r
  unfold HashReport.line wording
  match result with
  | .ok (.found byte) => simp [hpass, ← String.toList_inj]
  | .ok .referenceFound => simp [hfail, ← String.toList_inj]
  | .ok .missing => simp [hwarn, ← String.toList_inj]
  | .error message => simp [herror, ← String.toList_inj]

/-- **The line on the hash of a contract tells its report.** -/
theorem hash?_line (colours : Bool) (r : HashReport) (hname : ¬ ": ".toList <:+: r.name.toList) :
    hash? colours (r.line colours) = some r := by
  have htags := diverge_tags colours
  simp only [List.pairwise_cons, List.mem_cons, List.not_mem_nil, or_false, forall_eq_or_imp,
    forall_eq] at htags
  obtain ⟨⟨hpassFail, hpassWarn, hpassError⟩, ⟨hfailWarn, hfailError⟩, hwarnError, -⟩ := htags
  rw [line_eq]
  obtain ⟨name, result⟩ := r
  -- A line is taken by the reader for its tag and refused by those before.
  match result with
  | .ok (.found byte) =>
    rw [wording, hash?, tagged?_append hname (foundAt?_append byte)]
    rfl
  | .ok .referenceFound =>
    rw [wording, hash?, tagged?_of_diverge hpassFail, tagged?_append hname (if_pos rfl)]
    rfl
  | .ok .missing =>
    rw [wording, hash?, tagged?_of_diverge hpassWarn, tagged?_of_diverge hfailWarn,
      tagged?_append hname (if_pos rfl)]
    rfl
  | .error message =>
    rw [wording, hash?, tagged?_of_diverge hpassError, tagged?_of_diverge hfailError,
      tagged?_of_diverge hwarnError, tagged?_append hname rfl, String.ofList_toList]
    rfl

/-- **The section on hashes tells all its reports**, in their order. -/
theorem hashes?_hashLines {reports : List HashReport}
    (hname : ∀ r ∈ reports, ¬ ": ".toList <:+: r.name.toList) :
    hashes? colours (hashLines colours reports) = some reports := by
  have hread : takeAll (hash? colours) (reports.map (HashReport.line colours) ++ []) =
      (reports.map id, []) :=
    takeAll_print reports (fun r hr => hash?_line colours r (hname r hr)) (by simp)
  rw [List.append_nil, List.map_id] at hread
  simp [hashLines, hashes?, hread]

end BytecodeParity.Report
