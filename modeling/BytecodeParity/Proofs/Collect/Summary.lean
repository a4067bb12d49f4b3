import BytecodeParity.Proofs.Abi.Lookup
import BytecodeParity.Proofs.Collect.Files
import BytecodeParity.Proofs.Report.Printed
/-!
# What the summary of a run lists

At its end a run lists the contracts it fetched, with where from, those it skipped and those that
failed. The three lists are read from the lines of the summary (`Listing.read?`), each from below
its heading and only if it is as long as the heading says. **What is read is what the run found**
(`exists_read?_summaryLines`), each contract in one list. Names can be of any form, brackets
included, since there are only a few places from which an interface can come
(`describe_mem_of_lookUp`) and no name of one ends like that of another.
-/

namespace BytecodeParity.Collect

open Abi (Finding Origin)
open Report

variable {findings : List (String × Finding)} {o : Options} {name : String}

/-! ## Origins -/

/-- The places from which interfaces come, by what they are called. -/
def origins : List (String × Origin) :=
  [ ("v3-core artifacts", .artifact "v3-core"),
    ("v3-periphery artifacts", .artifact "v3-periphery"),
    ("swap-router-contracts artifacts", .artifact "swap-router-contracts"),
    ("v3-staker artifacts", .artifact "v3-staker"),
    ("universal-router artifacts", .artifact "universal-router"),
    ("Etherscan mainnet (canonical)", .etherscan),
    ("block explorer", .explorer) ]

/-- **Every interface comes from one of these places.** -/
theorem describe_mem_of_lookUp {fs : Files.Tree} {servers : Http.Servers} {places : Abi.Places}
    {address : Option String} {origin : Origin} {abi : Json}
    (h : (Abi.lookUp fs servers places name address).result = .fetched origin abi) :
    (origin.describe, origin) ∈ origins := by
  have hbuilt : ∀ e ∈ Abi.artifacts,
      ((Origin.artifact e.2.repository).describe, Origin.artifact e.2.repository) ∈ origins := by
    decide +kernel
  -- What is fetched comes from a source, and there are three kinds of sources.
  by_cases hskipped : name ∈ Abi.skipped
  · rw [Abi.lookUp_skipped fs servers places name address hskipped] at h
    cases h
  rw [Abi.lookUp_eq_askEach fs servers places name address hskipped] at h
  obtain ⟨s, hs, rfl, -⟩ := Abi.askEach_fetched h
  unfold Abi.sources Abi.builtSources at hs
  simp only [List.mem_append, List.mem_map, Option.mem_toList] at hs
  rcases hs with ⟨a, ha, rfl⟩ | hs | hs
  · exact hbuilt (name, a) (OrderedMap.mem_of_find? ha)
  · obtain ⟨-, rfl⟩ := Abi.eq_of_mem_publishedSources hs
    exact (by decide : (Origin.etherscan.describe, Origin.etherscan) ∈ origins)
  · rw [Abi.origin_of_mem_exploredSources hs]
    decide

/-- What was fetched comes from these places. -/
def FromOrigins (findings : List (String × Finding)) : Prop :=
  ∀ name origin abi, (name, Finding.fetched origin abi) ∈ findings →
    (origin.describe, origin) ∈ origins

/-- **A whole run** finds interfaces in these places only, as every lookup of it does. -/
theorem fromOrigins_of_collectFrom {colours : Bool} {servers : Http.Servers} {places : Abi.Places}
    {book : AddressBook} {names : List String} {p p' : Progress}
    (h : collectFrom colours servers o places book names p = (p', none))
    (hp : FromOrigins p.findings) : FromOrigins p'.findings := by
  induction names generalizing p with
  | nil =>
    obtain ⟨⟩ := h
    exact hp
  | cons name names ih =>
    obtain ⟨fs, -, hrest⟩ := of_collectFrom_cons h
    refine ih hrest fun name' origin abi hmem => ?_
    rcases List.mem_append.mp hmem with hmem | hmem
    · exact hp name' origin abi hmem
    · obtain ⟨rfl, hfetched⟩ := Prod.mk.inj (List.mem_singleton.mp hmem)
      exact describe_mem_of_lookUp hfetched.symm

/-! ## Reading a summary -/

/-- What a summary lists. -/
structure Listing where
  fetched : List (String × Origin)
  skipped : List String
  failed : List String
  deriving DecidableEq

/-- The contract in a line, with the place from which its interface comes. -/
def fetched? (line : String) : Option (String × Origin) :=
  origins.findSome? fun e =>
    (between? "  - " (" (" ++ e.1 ++ ")") line).map fun name => (name, e.2)

/-- The contract in a line. -/
def item? (line : String) : Option String := (behind? "  - " line).map String.ofList

/-- The list below a heading, which must have the length that the heading tells, and what is left.
Without the heading nothing is listed. -/
def names? (heading : String) : List String → Option (List String × List String)
  | [] => some ([], [])
  | line :: lines =>
    match numberBetween? ("\n" ++ heading ++ ": ") "" line with
    | none => some ([], line :: lines)
    | some count =>
      let (names, rest) := takeAll item? lines
      if names.length = count then some (names, rest) else none

/-- Reads a summary. Nothing is read from what stands below the lists. -/
def Listing.read? : List String → Option Listing
  | _ :: _ :: title :: _ :: line :: lines => do
    let count ← numberBetween? "Fetched: " "" line
    let (fetched, lines) := takeAll fetched? lines
    let (skipped, lines) ← names? "Skipped" lines
    let (failed, _) ← names? "Failed" lines
    if title = "Summary" ∧ fetched.length = count then some ⟨fetched, skipped, failed⟩ else none
  | _ => none

/-- A listing accounts for what was found. -/
structure Listing.Accounts (s : Listing) (findings : List (String × Finding)) : Prop where
  fetched_iff : ∀ name origin, (name, origin) ∈ s.fetched ↔
    ∃ abi, (name, Finding.fetched origin abi) ∈ findings
  skipped_iff : ∀ name, name ∈ s.skipped ↔ (name, Finding.skipped) ∈ findings
  failed_iff : ∀ name, name ∈ s.failed ↔ (name, Finding.failed) ∈ findings
  /-- Every contract is in one list, as often as it was looked up. -/
  perm : (s.fetched.map Prod.fst ++ s.skipped ++ s.failed).Perm (findings.map Prod.fst)

/-! ## What can be read -/

/-- No place is called by the end of what another one is called. -/
theorem eq_of_suffix : ∀ e ∈ origins, ∀ e' ∈ origins,
    (" (" ++ e.1 ++ ")").toList <:+ (" (" ++ e'.1 ++ ")").toList → e = e' := by
  decide +kernel

/-- **A contract is read from its line**, whatever its name is. -/
theorem fetched?_line {e : String × Origin} (he : e ∈ origins) (name : String) :
    fetched? ("  - " ++ name ++ " (" ++ e.1 ++ ")") = some (name, e.2) := by
  have hline : "  - " ++ name ++ " (" ++ e.1 ++ ")" = "  - " ++ (name ++ (" (" ++ e.1 ++ ")")) := by
    simp only [String.append_assoc]
  have hread : between? "  - " (" (" ++ e.1 ++ ")") ("  - " ++ (name ++ (" (" ++ e.1 ++ ")"))) =
      some name := between?_append name
  rw [hline, fetched?]
  cases hfound : origins.findSome? fun e' =>
      (between? "  - " (" (" ++ e'.1 ++ ")") ("  - " ++ (name ++ (" (" ++ e.1 ++ ")")))).map
        fun name => (name, e'.2) with
  | none =>
    have hnone := List.findSome?_eq_none_iff.mp hfound e he
    rw [hread] at hnone
    cases hnone
  | some found =>
    -- Of two places that end the line one would be called by the end of what the other is called.
    obtain ⟨e', he', hfound'⟩ := List.exists_of_findSome?_eq_some hfound
    by_cases hsame : e' = e
    · rw [hsame, hread] at hfound'
      exact hfound'.symm
    · rw [between?_of_not_suffix (fun hle => hsame (eq_of_suffix e' he' e he hle))
        fun hle => hsame (eq_of_suffix e he e' he' hle).symm] at hfound'
      cases hfound'

/-- The first of some lines, if there is one, begins with one of these marks. -/
def Begins (marks lines : List String) : Prop :=
  ∀ line ∈ lines.head?, ∃ mark ∈ marks, ∃ t, line = mark ++ t

variable {marks lines rest : List String} {heading : String}

theorem begins_nil : Begins marks [] := fun _ hline => nomatch hline

theorem begins_cons {mark : String} (h : mark ∈ marks) (t : String) (lines : List String) :
    Begins marks ((mark ++ t) :: lines) := by
  rintro line ⟨⟩
  exact ⟨mark, h, t, rfl⟩

theorem Begins.append (h : Begins marks lines) (h' : Begins marks rest) :
    Begins marks (lines ++ rest) := by
  cases lines with
  | nil => exact h'
  | cons line lines => exact h

theorem Begins.behind?_eq_none {front : String} (h : Begins marks lines)
    (hmarks : ∀ mark ∈ marks, Diverge front mark) :
    ∀ line ∈ lines.head?, behind? front line = none := by
  intro line hline
  obtain ⟨mark, hmark, t, rfl⟩ := h line hline
  exact behind?_of_diverge (hmarks mark hmark) t

theorem Begins.weaken (h : Begins marks lines) (mark : String) : Begins (mark :: marks) lines := by
  intro line hline
  obtain ⟨mark', hmark', t, rfl⟩ := h line hline
  exact ⟨mark', List.mem_cons_of_mem mark hmark', t, rfl⟩

theorem begins_listed (h : "\n" ++ heading ++ ": " ∈ marks) (names : List String) :
    Begins marks (listed heading names) := by
  unfold listed
  split
  · exact begins_nil
  · exact begins_cons h _ _

theorem begins_hints (h : "\nHint: " ∈ marks) (hasKey : Bool) (names : List String) :
    Begins marks (hints hasKey names) := by
  unfold hints
  split
  · exact begins_nil
  · refine Begins.append ?_ ?_
    · split
      · exact begins_cons h
          "For Permit2, set ETHERSCAN_API_KEY env var (free at etherscan.io)" _
      · exact begins_nil
    · exact begins_cons h "For other contracts, run builds in the source repos:" _

/-- **The contracts fetched are read**, up to a line with another mark. -/
theorem takeAll_fetched {found : List (String × Origin)}
    (hfound : ∀ f ∈ found, (f.2.describe, f.2) ∈ origins) (hrest : Begins marks rest)
    (hmarks : ∀ mark ∈ marks, Diverge "  - " mark) :
    takeAll fetched? ((found.map fun f => "  - " ++ f.1 ++ " (" ++ f.2.describe ++ ")") ++ rest) =
      (found, rest) := by
  have hread : ∀ f ∈ found,
      fetched? ("  - " ++ f.1 ++ " (" ++ f.2.describe ++ ")") = some (id f) :=
    fun f hf => fetched?_line (hfound f hf) f.1
  have hstop : ∀ line ∈ rest.head?, fetched? line = none := by
    intro line hline
    have hbehind := hrest.behind?_eq_none hmarks line hline
    refine List.findSome?_eq_none_iff.mpr fun e _ => ?_
    rw [between?, hbehind]
    rfl
  rw [takeAll_print found hread hstop, List.map_id]

/-- **The names below a heading are read.** -/
theorem names?_listed (heading : String) (names : List String) (hrest : Begins marks rest)
    (hmarks : ∀ mark ∈ marks, Diverge "  - " mark ∧ Diverge ("\n" ++ heading ++ ": ") mark) :
    names? heading (listed heading names ++ rest) = some (names, rest) := by
  have hheading := hrest.behind?_eq_none fun mark hmark => (hmarks mark hmark).2
  have hitem : ∀ line ∈ rest.head?, item? line = none := by
    intro line hline
    rw [item?, hrest.behind?_eq_none (fun mark hmark => (hmarks mark hmark).1) line hline]
    rfl
  unfold listed
  split
  next hnone =>
    obtain rfl := List.isEmpty_iff.mp hnone
    cases rest with
    | nil => rfl
    | cons line rest =>
      rw [List.nil_append, names?, numberBetween?_of_behind? (hheading line rfl)]
  next =>
    have hnames : takeAll item? ((names.map fun n => "  - " ++ n) ++ rest) =
        (names.map id, rest) :=
      takeAll_print names (fun n _ => by simp [item?, behind?_append]) hitem
    rw [List.map_id] at hnames
    rw [List.cons_append, names?, numberBetween?_append_nil]
    simp only [hnames, if_true]

theorem mem_fetched {origin : Origin} : (name, origin) ∈ fetched findings ↔
    ∃ abi, (name, Finding.fetched origin abi) ∈ findings := by
  unfold fetched
  rw [List.mem_filterMap]
  constructor
  · rintro ⟨⟨_, finding⟩, hmem, heq⟩
    cases finding <;> cases heq
    exact ⟨_, hmem⟩
  · rintro ⟨abi, hmem⟩
    exact ⟨_, hmem, rfl⟩

theorem mem_skipped : name ∈ skipped findings ↔ (name, Finding.skipped) ∈ findings := by
  unfold skipped
  rw [List.mem_filterMap]
  constructor
  · rintro ⟨⟨_, finding⟩, hmem, heq⟩
    cases finding <;> cases heq
    exact hmem
  · exact fun hmem => ⟨_, hmem, rfl⟩

theorem mem_failed : name ∈ failed findings ↔ (name, Finding.failed) ∈ findings := by
  unfold failed
  rw [List.mem_filterMap]
  constructor
  · rintro ⟨⟨_, finding⟩, hmem, heq⟩
    cases finding <;> cases heq
    exact hmem
  · exact fun hmem => ⟨_, hmem, rfl⟩

/-- **Every contract is in exactly one list.** -/
theorem perm_lists (findings : List (String × Finding)) :
    ((fetched findings).map Prod.fst ++ skipped findings ++ failed findings).Perm
      (findings.map Prod.fst) := by
  induction findings with
  | nil => exact .nil
  | cons f findings ih =>
    obtain ⟨name, finding⟩ := f
    cases finding with
    | fetched origin abi => exact ih.cons name
    | skipped =>
      refine List.Perm.trans ?_ (ih.cons name)
      rw [List.append_assoc, List.append_assoc]
      exact List.perm_middle
    | failed => exact List.perm_middle.trans (ih.cons name)

/-- What stands below the lists. -/
def closing (o : Options) (hasKey : Bool) (failed : List String) : List String :=
  hints hasKey failed ++ if o.dryRun then [] else ["\nABIs written to: " ++ abiDirectory o]

theorem begins_closing (o : Options) (hasKey : Bool) (failed : List String) :
    Begins ["\nHint: ", "\nABIs written to: "] (closing o hasKey failed) := by
  refine (begins_hints (by decide) hasKey failed).append ?_
  split
  · exact begins_nil
  · exact begins_cons (by decide) _ _

/-- **What is listed is what was found**, and all of it can be read. -/
theorem exists_read?_summaryLines (h : FromOrigins findings) (o : Options) (hasKey : Bool) :
    ∃ s, Listing.read? (summaryLines o hasKey findings) = some s ∧ s.Accounts findings := by
  refine ⟨⟨fetched findings, skipped findings, failed findings⟩, ?_, fun _ _ => mem_fetched,
    fun _ => mem_skipped, fun _ => mem_failed, perm_lists findings⟩
  have hlines : summaryLines o hasKey findings =
      "" :: String.ofList (List.replicate 60 '=') :: "Summary" :: "" ::
        ("Fetched: " ++ toString (fetched findings).length) ::
          (((fetched findings).map fun f => "  - " ++ f.1 ++ " (" ++ f.2.describe ++ ")") ++
            (listed "Skipped" (skipped findings) ++ (listed "Failed" (failed findings) ++
              closing o hasKey (failed findings)))) := by
    simp [summaryLines, closing]
  -- From behind: what follows a list begins with a mark that is none of its own lines.
  have hclosing := begins_closing o hasKey (failed findings)
  have hbelow : Begins ["\nFailed: ", "\nHint: ", "\nABIs written to: "]
      (listed "Failed" (failed findings) ++ closing o hasKey (failed findings)) :=
    (begins_listed (by decide) _).append (hclosing.weaken _)
  have hlists : Begins ["\nSkipped: ", "\nFailed: ", "\nHint: ", "\nABIs written to: "]
      (listed "Skipped" (skipped findings) ++ (listed "Failed" (failed findings) ++
        closing o hasKey (failed findings))) :=
    (begins_listed (by decide) _).append (hbelow.weaken _)
  have hfound : ∀ f ∈ fetched findings, (f.2.describe, f.2) ∈ origins := by
    rintro ⟨name, origin⟩ hf
    obtain ⟨abi, hmem⟩ := mem_fetched.mp hf
    exact h name origin abi hmem
  have hfetched := takeAll_fetched hfound hlists (by decide)
  have hskipped := names?_listed "Skipped" (skipped findings) hbelow (by decide)
  have hfailed := names?_listed "Failed" (failed findings) hclosing (by decide)
  rw [hlines, Listing.read?]
  simp only [numberBetween?_append_nil, hfetched, hskipped, hfailed, bind, Option.bind]
  rfl

end BytecodeParity.Collect
