import BytecodeParity.Proofs.CommandLine.Reading
import BytecodeParity.Proofs.PoolHashes
import BytecodeParity.Proofs.Report.Contract
import BytecodeParity.Proofs.Report.Summary
/-!
# Nodes that answer anything

Comparing a deployment takes up to twenty-eight questions to two nodes, and each may be answered
with a failure, with the wrong chain or with anything at all, also otherwise than the same question
was answered before. A `Course` of the nodes leaves all of that open: it gives them anew on each
`Occasion` on which one is asked. Nodes that stay as they are make one such course
(`askAmid_steady`).

**No course decides about the exit status.** It is settled before the first question by what
`Starts` lists, and once a comparison starts, its report is printed to the end with all that went
wrong in it (`status_eq_zero_iff_starts`). That it is printed is said of the output: what `Told`
asks for is read from its lines.
-/

namespace BytecodeParity

open Report

namespace Compare

/-! ## Questions -/

/-- When a node is asked: for its chain, for each code of a contract, and once more for the deployed
code when the pool init code hash is looked for. -/
inductive Occasion where
  | chain
  | deployed (c : Contract)
  | reference (c : Contract)
  | hash (c : Contract)

/-- The nodes as they are on each occasion. -/
abbrev Course := Occasion → Http.Servers

namespace Course

variable (nodes : Course) (p : Plan) (c : Contract)

/-- What the node of the deployment tells when a contract is compared. -/
def deployed : Code.Source := nodeSource (nodes (.deployed c)) p.deployment.rpcUrl

/-- What the node of the reference chain tells when a contract is compared. -/
def reference : Code.Source := nodeSource (nodes (.reference c)) p.referenceEndpoint

/-- What the node of the deployment tells when the hash is looked for in a contract. -/
def searched : Code.Source := nodeSource (nodes (.hash c)) p.deployment.rpcUrl

end Course

/-- Asks nodes that may change from one occasion to the next. -/
def askAmid (nodes : Course) (p : Plan) : Findings where
  chainId := (Node.chainId (nodes .chain) p.deployment.rpcUrl).result
  contracts := Contract.all.map fun c =>
    p.deployment.compareOne (nodes.deployed p c) (nodes.reference p c) c
  hashes := Contract.embeddingPoolHash.filterMap fun c =>
    p.deployment.verifyPoolHash? (nodes.searched p c) c

/-- Asking nodes that stay as they are is asking them amid no change. -/
theorem askAmid_steady (servers : Http.Servers) : askAmid (fun _ => servers) = ask servers := by
  funext p
  rw [ask, Deployment.run_eq]
  rfl

/-! ## Starting -/

variable {w : World} {o : Options} {p : Plan} {fs : Files.Tree} {settings : Settings}

/-- Whatever a comparison needs in order to start is there: settings, the address book of the
network, a deployment that can be settled from them, and an endpoint of the reference chain. -/
inductive Starts (w : World) (o : Options) : Plan → Prop
  | intro {settings : Settings} {book : AddressBook} {d : Deployment} {endpoint : String}
    (hsettings : (Settings.select w.files w.environment o.config).2 = .ok settings)
    (hbook : AddressBook.ofDirectory w.files o.addressDirectory o.network = .ok book)
    (hresolve : Deployment.resolve settings o.network book = .ok d)
    (hendpoint : OrderedMap.find? ethereumChainId settings.rpcUrls = some endpoint) :
    Starts w o ⟨d, endpoint⟩

theorem endpoint_eq_ok_iff {chainId : Nat} {url : String} :
    settings.endpoint chainId = .ok url ↔
      OrderedMap.find? chainId settings.rpcUrls = some url := by
  rw [Settings.endpoint]
  cases OrderedMap.find? chainId settings.rpcUrls with
  | none => exact iff_of_false (fun h => nomatch h) fun h => nomatch h
  | some found => rw [Except.ok.injEq, Option.some.injEq]

theorem plan_eq_ok_iff :
    plan fs settings o = .ok p ↔
      ∃ book, AddressBook.ofDirectory fs o.addressDirectory o.network = .ok book ∧
        Deployment.resolve settings o.network book = .ok p.deployment ∧
        OrderedMap.find? ethereumChainId settings.rpcUrls = some p.referenceEndpoint := by
  simp only [plan, bind_eq_ok_iff, endpoint_eq_ok_iff, Except.ok.injEq]
  constructor
  · rintro ⟨book, hbook, d, hresolve, endpoint, hendpoint, rfl⟩
    exact ⟨book, hbook, hresolve, hendpoint⟩
  · rintro ⟨book, hbook, hresolve, hendpoint⟩
    exact ⟨book, hbook, p.deployment, hresolve, p.referenceEndpoint, hendpoint, rfl⟩

theorem starts_iff :
    Starts w o p ↔
      ∃ settings, (Settings.select w.files w.environment o.config).2 = .ok settings ∧
        plan w.files settings o = .ok p := by
  simp only [plan_eq_ok_iff]
  constructor
  · rintro ⟨hsettings, hbook, hresolve, hendpoint⟩
    exact ⟨_, hsettings, _, hbook, hresolve, hendpoint⟩
  · rintro ⟨settings, hsettings, book, hbook, hresolve, hendpoint⟩
    exact .intro hsettings hbook hresolve hendpoint

/-- **A comparison that starts is reported to the end**, however the nodes are asked. -/
theorem runAsking_of_starts (ask : Plan → Findings) (h : Starts w o p) :
    let environment := (Settings.select w.files w.environment o.config).1
    runAsking ask w o =
      { lines := opening o :: report (Style.forcedBy environment) p.deployment (ask p)
        failure := none
        files := w.files
        environment := environment } := by
  obtain ⟨settings, hsettings, hplan⟩ := starts_iff.mp h
  rw [runAsking]
  split
  next environment f hselect =>
    rw [hselect] at hsettings
    cases hsettings
  next environment settings' hselect =>
    rw [hselect] at hsettings ⊢
    obtain rfl := Except.ok.inj hsettings
    rw [hplan]

/-- A comparison that does not start fails, and no node is asked. -/
theorem exists_runAsking_of_not_starts (h : ¬ ∃ p, Starts w o p) :
    ∃ e : Ending, e.failure.isSome = true ∧ ∀ ask, runAsking ask w o = e := by
  simp only [starts_iff] at h
  cases hselect : Settings.select w.files w.environment o.config with
  | mk environment loaded =>
    cases loaded with
    | error f => exact ⟨_, rfl, fun ask => by rw [runAsking, hselect]⟩
    | ok settings =>
      cases hplan : plan w.files settings o with
      | error f =>
        refine ⟨⟨[opening o], some f, w.files, environment⟩, rfl, fun ask => ?_⟩
        rw [runAsking, hselect]
        dsimp only
        rw [hplan]
      | ok p => exact absurd ⟨p, settings, by rw [hselect], hplan⟩ h

/-! ## What is printed -/

/-- The contracts of a deployment in which the pool init code hash is looked for. -/
def deployedEmbedding (d : Deployment) : List Contract :=
  Contract.embeddingPoolHash.filter fun c => (d.book.deployedAddress? c.name).isSome

/-- What the hash section tells of a contract. -/
structure Searched (d : Deployment) (deployed : Code.Source) (c : Contract) (h : HashReport) :
    Prop where
  name_eq : h.name = c.name
  result_eq : ∃ address, d.book.deployedAddress? c.name = some address ∧
    h.result = (deployed address).map d.hashLocation

/-- The two chains that a line of warning tells, the one of the node first. -/
def chains? (colours : Bool) (line : String) : Option (Nat × Nat) := do
  let t ← behind? (coloured colours "33" "[WARN]" ++ " RPC reports chain id ") line
  let (told, t) ← counted? ", expected " t
  let (expected, rest) ← number? t
  if rest = [] then some (told, expected) else none

/-- A line of warning, if the node of the deployment tells another chain than expected. -/
inductive WarnsOfChain (colours : Bool) (d : Deployment) (told : Except Failure Nat) :
    List String → Prop
  | silent (h : ∀ chainId, told = .ok chainId → chainId = d.chainId) :
    WarnsOfChain colours d told []
  | warning {chainId : Nat} {line : String} (htold : told = .ok chainId) (hne : chainId ≠ d.chainId)
    (hread : chains? colours line = some (chainId, d.chainId)) : WarnsOfChain colours d told [line]

/-- The lines printed of a comparison that has started. Between what comes first and what comes last
there are a section on each contract in reporting order, the section on the pool init code hash
with all deployed contracts that embed it, and the summary with a row for each contract. Whoever
reads them is told what the nodes answered on each occasion, failures included. -/
inductive Told (colours : Bool) (o : Options) (p : Plan) (nodes : Course) : List String → Prop
  | intro {warning hashSection summary : List String} {sections : List (List String)}
    {reports : List ContractReport} {hashes : List HashReport} {rows : List Row}
    (hwarning : WarnsOfChain colours p.deployment
      (Node.chainId (nodes .chain) p.deployment.rpcUrl).result warning)
    (hreports : List.Forall₂
      (fun c r => p.deployment.Settled (nodes.deployed p c) (nodes.reference p c) c r)
      Contract.all reports)
    (hsections : List.Forall₂ (fun r lines => ∃ s, section? colours lines = some s ∧
      s.Tells p.deployment.network.name r) reports sections)
    (hsearched : List.Forall₂ (fun c h => Searched p.deployment (nodes.searched p c) c h)
      (deployedEmbedding p.deployment) hashes)
    (hhashes : hashes? colours hashSection = some hashes)
    (hrows : List.Forall₂ (fun r row => row.Tells r) reports rows)
    (hsummary : summary? colours summary = some (rows, tally rows)) :
    Told colours o p nodes (opening o :: (p.deployment.banner ++ warning ++ sections.flatten ++
      hashSection ++ summary ++ closing))

theorem chains?_warning (colours : Bool) (told expected : Nat) :
    chains? colours (Style.yellow.paint colours "[WARN]" ++ " RPC reports chain id " ++
      toString told ++ ", expected " ++ toString expected) = some (told, expected) := by
  have hbehind : behind? (coloured colours "33" "[WARN]" ++ " RPC reports chain id ")
      (Style.yellow.paint colours "[WARN]" ++ " RPC reports chain id " ++ toString told ++
        ", expected " ++ toString expected) =
      some (Nat.toDigits 10 told ++ (", expected ".toList ++ Nat.toDigits 10 expected)) := by
    rw [paint_eq_coloured .yellow "33" (by decide) rfl, String.append_assoc, String.append_assoc,
      behind?_append]
    simp [Nat.toString_eq_repr, Nat.toList_repr]
  have htold : counted? ", expected "
      (Nat.toDigits 10 told ++ (", expected ".toList ++ Nat.toDigits 10 expected)) =
      some (told, Nat.toDigits 10 expected) := counted?_append (by decide) told _
  simp only [chains?, hbehind, htold, number?_toDigits_nil, bind, Option.bind]
  rfl

theorem warnsOfChain_chainLines (colours : Bool) (d : Deployment) (told : Except Failure Nat) :
    WarnsOfChain colours d told (chainLines colours d told) := by
  cases told with
  | error f => exact .silent fun chainId h => nomatch h
  | ok chainId =>
    rw [chainLines]
    split
    next hsame =>
      refine .silent fun other h => ?_
      rwa [Except.ok.inj h] at hsame
    next hne => exact .warning rfl hne (chains?_warning colours chainId d.chainId)

/-- Every deployed contract that embeds the hash is searched, and no other contract. -/
theorem forall₂_hashes (d : Deployment) (sources : Contract → Code.Source) (cs : List Contract) :
    List.Forall₂ (fun c h => Searched d (sources c) c h)
      (cs.filter fun c => (d.book.deployedAddress? c.name).isSome)
      (cs.filterMap fun c => d.verifyPoolHash? (sources c) c) := by
  induction cs with
  | nil => exact .nil
  | cons c cs ih =>
    cases haddress : d.book.deployedAddress? c.name with
    | none =>
      rw [List.filter_cons_of_neg (by simp [haddress]), List.filterMap_cons,
        Deployment.verifyPoolHash?_of_none haddress]
      exact ih
    | some address =>
      rw [List.filter_cons_of_pos (by simp [haddress]), List.filterMap_cons,
        Deployment.verifyPoolHash?_of_some haddress]
      exact .cons ⟨rfl, address, haddress, rfl⟩ ih

/-- The names of contracts keep their form in a table, and none of them has a colon. -/
theorem plain_name (c : Contract) : Table.Plain c.name ∧ ':' ∉ c.name.toList := by
  cases c <;> decide

/-- **Everything is reported**, whatever the nodes answer. -/
theorem told_report (colours : Bool) (o : Options) (p : Plan) (nodes : Course) :
    Told colours o p nodes
      (opening o :: report colours p.deployment (askAmid nodes p)) := by
  have hsettled : ∀ r ∈ (askAmid nodes p).contracts, ∃ c,
      p.deployment.Settled (nodes.deployed p c) (nodes.reference p c) c r := by
    unfold askAmid
    intro r hr
    obtain ⟨c, -, rfl⟩ := List.mem_map.mp hr
    exact ⟨c, Deployment.settled_compareOne _ _ _ c⟩
  have hreports : List.Forall₂
      (fun c r => p.deployment.Settled (nodes.deployed p c) (nodes.reference p c) c r)
      Contract.all (askAmid nodes p).contracts := by
    rw [askAmid, List.forall₂_map_right_iff, List.forall₂_same]
    exact fun c _ => Deployment.settled_compareOne _ _ _ c
  have hsections : List.Forall₂ (fun r lines => ∃ s, section? colours lines = some s ∧
      s.Tells p.deployment.network.name r) (askAmid nodes p).contracts
      ((askAmid nodes p).contracts.map
        (ContractReport.lines colours p.deployment.network.name)) := by
    rw [List.forall₂_map_right_iff, List.forall₂_same]
    intro r hr
    obtain ⟨c, hc⟩ := hsettled r hr
    exact exists_section?_lines colours _ hc
  have hsearched : List.Forall₂ (fun c h => Searched p.deployment (nodes.searched p c) c h)
      (deployedEmbedding p.deployment) (askAmid nodes p).hashes := forall₂_hashes _ _ _
  have hhashes : hashes? colours (hashLines colours (askAmid nodes p).hashes) =
      some (askAmid nodes p).hashes := by
    unfold askAmid
    refine hashes?_hashLines fun h hh => ?_
    obtain ⟨c, -, hc⟩ := List.mem_filterMap.mp hh
    rw [Deployment.name_of_verifyPoolHash? hc]
    exact fun hcolon => (plain_name c).2 (hcolon.subset (by decide))
  -- The table of the summary keeps what is in it only if there are no bars and breaks in it.
  have hplain : ∀ r ∈ (askAmid nodes p).contracts, Table.Plain r.name := by
    intro r hr
    obtain ⟨c, hc⟩ := hsettled r hr
    rw [hc.name_eq]
    exact (plain_name c).1
  obtain ⟨rows, hsummary, hrows⟩ := exists_summary?_summaryLines colours hplain
  have hwarning := warnsOfChain_chainLines colours p.deployment (askAmid nodes p).chainId
  have htold := Told.intro (o := o) hwarning hreports hsections hsearched hhashes hrows hsummary
  rwa [← List.flatMap_def] at htold

end Compare

namespace Program

open Arguments Compare

variable {w : World} {arguments : List String} {above given : Given}

/-- What the program leaves behind if the nodes take this course. -/
def exitAmid (nodes : Course) (w : World) (o : Compare.Options) : Exit :=
  ended comparisonFailed (runAsking (askAmid nodes) w o)

end Program

end BytecodeParity
