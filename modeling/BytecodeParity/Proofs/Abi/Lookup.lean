import BytecodeParity.Abi.Lookup
import BytecodeParity.Proofs.Outcome
import Mathlib.Data.List.Basic
/-!
# Where an interface comes from

`lookUp` decides between three kinds of places, each with its own way to hide an interface: a member
of a file, a JSON text within an answer, a member of an answer. Here the places that there are for a
contract are listed (`sources`), and `Shows` says what a place has to show, each kind by itself.
Looking up is then asking one source after the other (`lookUp_eq_askEach`), and **the first that
yields an interface settles it: none behind it is asked, and those in front of it had none**
(`lookUp_first`). A source on the web is asked with one request, or with none if its address is one
to which no request can be sent, and then it yields nothing (`requests_cases`).

What a source shows may be null, which is no interface. Files and explorers are looked at for that
and the registry of published sources is not, so **there is one way to fetch null, and it is the
answer of that registry** (`fetched_null_iff`).
-/

namespace BytecodeParity.Json

theorem presentMember?_eq_some_iff (name : String) (value v : Json) :
    value.presentMember? name = some v ↔ value.member? name = some v ∧ v ≠ .null := by
  unfold Json.presentMember?
  rw [Option.filter_eq_some_iff]
  cases v <;> simp [Json.isNull]

theorem text?_eq_some_iff (value : Json) (text : String) :
    value.text? = some text ↔ value = .string text := by
  cases value <;> simp [Json.text?]

theorem eq_null_of_isNull {x : Option Json} (h : x.map Json.isNull = some true) :
    x = some .null := by
  obtain ⟨value, hx, hnull⟩ := Option.map_eq_some_iff.mp h
  cases value with
  | null => exact hx
  | _ => cases hnull

theorem eq_string_of_text? {x : Option Json} {text : String}
    (h : x.bind Json.text? = some text) : x = some (.string text) := by
  obtain ⟨value, hx, htext⟩ := Option.bind_eq_some_iff.mp h
  rw [hx, (text?_eq_some_iff value text).mp htext]

end BytecodeParity.Json

namespace BytecodeParity.Abi

open Files (Tree)

/-! ## Sources -/

/-- The request to an address. None can be sent to what is no address of the web. -/
def requestsTo (url : String) : List Http.Request :=
  match Http.Url.parse url with
  | .ok url => [⟨.get, url, none⟩]
  | .error _ => []

/-- A place that may have the interface of a contract, as it is reached. -/
inductive Source where
  | built (artifact : Artifact)
  | published (url : String)
  | explored (url : String)

namespace Source

def origin : Source → Origin
  | built artifact => .artifact artifact.repository
  | published _ => .etherscan
  | explored _ => .explorer

/-- What it takes to ask a source. -/
def requests : Source → List Http.Request
  | built _ => []
  | published url | explored url => requestsTo url

end Source

def builtSources (name : String) : List Source :=
  (artifact? name).toList.map .built

def publishedSources (places : Places) (name : String) : List Source :=
  if name = permitContract then [.published (publishedAddress places.etherscanKey)] else []

def exploredSources (places : Places) (address : Option String) : List Source :=
  match places.explorer, address with
  | some explorer, some address =>
    if explorer = "" then [] else [.explored (explorerAddress explorer address)]
  | _, _ => []

/-- The sources that there are for a contract, in the order in which they are asked. -/
def sources (places : Places) (name : String) (address : Option String) : List Source :=
  builtSources name ++ (publishedSources places name ++ exploredSources places address)

/-- The server at an address sends this content, as a success. -/
def Replies (servers : Http.Servers) (url content : String) : Prop :=
  ∃ reply, (Http.send servers .get url none).result = .ok reply ∧ reply.isSuccess = true ∧
    reply.content = content

/-- What stands in a source where the interface belongs, null included. -/
inductive Shows (fs : Tree) (servers : Http.Servers) (root : String) : Source → Json → Prop
  | built {artifact : Artifact} {content : String} {value abi : Json} :
      fs.readText (artifact.file root) = .ok content → Json.parse content = .ok value →
      value.member? "abi" = some abi → Shows fs servers root (.built artifact) abi
  | published {url content text : String} {answer : Published} {abi : Json} :
      Replies servers url content → publishedLayout.parse content = .ok answer →
      answer.status = "1" → answer.result = .string text → Json.parse text = .ok abi →
      Shows fs servers root (.published url) abi
  | explored {url content : String} {value abi : Json} :
      Replies servers url content → Json.parse content = .ok value →
      value.member? "abi" = some abi → Shows fs servers root (.explored url) abi

/-- A source yields an interface if it shows something else than null. -/
def Yields (fs : Tree) (servers : Http.Servers) (root : String) (s : Source) (v : Json) : Prop :=
  Shows fs servers root s v ∧ v ≠ .null

/-! ## Reading what a source has -/

theorem ofArtifactFile_eq_some_iff (fs : Tree) (path : String) (v : Json) :
    ofArtifactFile fs path = some v ↔
      ∃ content, fs.readText path = .ok content ∧ ∃ value, Json.parse content = .ok value ∧
        value.member? "abi" = some v ∧ v ≠ .null := by
  simp only [ofArtifactFile, Option.bind_eq_bind, Option.bind_eq_some_iff, toOption_eq_some_iff,
    Json.presentMember?_eq_some_iff]

theorem readPublished_eq_some_iff (content : String) (v : Json) :
    readPublished content = some v ↔
      ∃ answer, publishedLayout.parse content = .ok answer ∧ answer.status = "1" ∧
        ∃ text, answer.result = .string text ∧ Json.parse text = .ok v := by
  simp only [readPublished, Option.bind_eq_bind, Option.bind_eq_some_iff, toOption_eq_some_iff,
    Option.ite_none_right_eq_some, Json.text?_eq_some_iff]

theorem readExplorer_eq_some_iff (content : String) (v : Json) :
    readExplorer content = some v ↔
      ∃ value, Json.parse content = .ok value ∧ value.member? "abi" = some v ∧ v ≠ .null := by
  simp only [readExplorer, Option.bind_eq_bind, Option.bind_eq_some_iff, toOption_eq_some_iff,
    Json.presentMember?_eq_some_iff]

theorem fetch_eq_some_iff (servers : Http.Servers) (url : String) (read : String → Option Json)
    (v : Json) :
    (fetch servers url read).result = some v ↔
      ∃ content, Replies servers url content ∧ read content = some v := by
  simp only [fetch, Replies, Option.bind_eq_bind, Option.bind_eq_some_iff, toOption_eq_some_iff,
    Option.ite_none_right_eq_some]
  constructor
  · intro ⟨reply, hreply, hsuccess, hread⟩
    exact ⟨reply.content, ⟨reply, hreply, hsuccess, rfl⟩, hread⟩
  · intro ⟨content, ⟨reply, hreply, hsuccess, hcontent⟩, hread⟩
    rw [← hcontent] at hread
    exact ⟨reply, hreply, hsuccess, hread⟩

theorem requests_fetch (servers : Http.Servers) (url : String) (read : String → Option Json) :
    (fetch servers url read).requests = requestsTo url := by
  show (Http.send servers .get url none).requests = requestsTo url
  unfold Http.send requestsTo
  cases Http.Url.parse url with
  | error fault => rfl
  | ok url =>
    simp only
    cases servers ⟨.get, url, none⟩ with
    | none => rfl
    | some reply => rfl

/-! ## Asking one source -/

/-- What `lookUp` makes of one source. -/
def ask (fs : Tree) (servers : Http.Servers) (root : String) : Source → Http.Exchange (Option Json)
  | .built artifact => ⟨ofArtifactFile fs (artifact.file root), []⟩
  | .published url => fetch servers url readPublished
  | .explored url => fetch servers url readExplorer

theorem requests_ask (fs : Tree) (servers : Http.Servers) (root : String) (s : Source) :
    (ask fs servers root s).requests = s.requests := by
  cases s with
  | built artifact => rfl
  | published url => exact requests_fetch servers url readPublished
  | explored url => exact requests_fetch servers url readExplorer

/-- Asking a source gives what it shows. Null is let through where it is the registry's. -/
theorem ask_eq_some_iff (fs : Tree) (servers : Http.Servers) (root : String) (s : Source)
    (v : Json) :
    (ask fs servers root s).result = some v ↔
      Shows fs servers root s v ∧ (v = .null → s.origin = .etherscan) := by
  cases s with
  | built artifact =>
    show ofArtifactFile fs (artifact.file root) = some v ↔ _
    rw [ofArtifactFile_eq_some_iff]
    constructor
    · intro ⟨content, hread, value, hparse, hmember, hnull⟩
      exact ⟨.built hread hparse hmember, fun h => absurd h hnull⟩
    · intro ⟨hshows, hnull⟩
      cases hshows with
      | built hread hparse hmember =>
        exact ⟨_, hread, _, hparse, hmember, fun h => nomatch hnull h⟩
  | published url =>
    show (fetch servers url readPublished).result = some v ↔ _
    simp only [fetch_eq_some_iff, readPublished_eq_some_iff]
    constructor
    · intro ⟨content, hreplies, answer, hparse, hstatus, text, hresult, htext⟩
      exact ⟨.published hreplies hparse hstatus hresult htext, fun _ => rfl⟩
    · intro ⟨hshows, _⟩
      cases hshows with
      | published hreplies hparse hstatus hresult htext =>
        exact ⟨_, hreplies, _, hparse, hstatus, _, hresult, htext⟩
  | explored url =>
    show (fetch servers url readExplorer).result = some v ↔ _
    simp only [fetch_eq_some_iff, readExplorer_eq_some_iff]
    constructor
    · intro ⟨content, hreplies, value, hparse, hmember, hnull⟩
      exact ⟨.explored hreplies hparse hmember, fun h => absurd h hnull⟩
    · intro ⟨hshows, hnull⟩
      cases hshows with
      | explored hreplies hparse hmember =>
        exact ⟨_, hreplies, _, hparse, hmember, fun h => nomatch hnull h⟩

/-! ## Asking one after the other -/

/-- Asks sources up to the first that has an answer. -/
def askEach (fs : Tree) (servers : Http.Servers) (root : String) :
    List Source → Http.Exchange Finding
  | [] => ⟨.failed, []⟩
  | s :: rest =>
    match (ask fs servers root s).result with
    | some v => ⟨.fetched s.origin v, s.requests⟩
    | none =>
      let later := askEach fs servers root rest
      ⟨later.result, s.requests ++ later.requests⟩

section Walk

variable {fs : Tree} {servers : Http.Servers} {root : String}

theorem askEach_cons_some {s : Source} {v : Json} (rest : List Source)
    (h : (ask fs servers root s).result = some v) :
    askEach fs servers root (s :: rest) = ⟨.fetched s.origin v, s.requests⟩ := by
  rw [askEach, h]

theorem askEach_cons_none {s : Source} (rest : List Source)
    (h : (ask fs servers root s).result = none) :
    askEach fs servers root (s :: rest) =
      ⟨(askEach fs servers root rest).result,
        s.requests ++ (askEach fs servers root rest).requests⟩ := by
  rw [askEach, h]

/-- Sources without an answer are asked and passed over. -/
theorem askEach_append {front : List Source} (rest : List Source)
    (h : ∀ s ∈ front, (ask fs servers root s).result = none) :
    askEach fs servers root (front ++ rest) =
      ⟨(askEach fs servers root rest).result,
        front.flatMap Source.requests ++ (askEach fs servers root rest).requests⟩ := by
  induction front with
  | nil => rfl
  | cons s front ih =>
    have hfront := ih fun t ht => h t (List.mem_cons_of_mem s ht)
    rw [List.cons_append, askEach_cons_none _ (h s List.mem_cons_self), hfront,
      List.flatMap_cons, List.append_assoc]

/-- **The first source with an answer settles it.** -/
theorem askEach_first {front : List Source} {s : Source} {v : Json} (rest : List Source)
    (hfront : ∀ t ∈ front, (ask fs servers root t).result = none)
    (hs : (ask fs servers root s).result = some v) :
    askEach fs servers root (front ++ s :: rest) =
      ⟨.fetched s.origin v, (front ++ [s]).flatMap Source.requests⟩ := by
  rw [askEach_append _ hfront, askEach_cons_some _ hs]
  simp

theorem askEach_failed {all : List Source}
    (h : ∀ s ∈ all, (ask fs servers root s).result = none) :
    askEach fs servers root all = ⟨.failed, all.flatMap Source.requests⟩ := by
  have hall := askEach_append [] h
  rw [List.append_nil] at hall
  rw [hall]
  simp [askEach]

/-- No source has an answer, or there is a first one that has. -/
theorem answers_cases (fs : Tree) (servers : Http.Servers) (root : String) (all : List Source) :
    (∀ s ∈ all, (ask fs servers root s).result = none) ∨
      ∃ front s rest v, all = front ++ s :: rest ∧
        (∀ t ∈ front, (ask fs servers root t).result = none) ∧
        (ask fs servers root s).result = some v := by
  induction all with
  | nil => exact Or.inl (by simp)
  | cons s all ih =>
    cases hs : (ask fs servers root s).result with
    | some v => exact Or.inr ⟨[], s, all, v, rfl, by simp, hs⟩
    | none =>
      rcases ih with hnone | ⟨front, t, rest, v, hall, hfront, ht⟩
      · exact Or.inl (by simpa [hs] using hnone)
      · exact Or.inr ⟨s :: front, t, rest, v, by rw [hall]; rfl, by simpa [hs] using hfront, ht⟩

/-- The walk fails exactly if no source has an answer. -/
theorem askEach_failed_iff (all : List Source) :
    (askEach fs servers root all).result = .failed ↔
      ∀ s ∈ all, (ask fs servers root s).result = none := by
  constructor
  · intro hfailed
    rcases answers_cases fs servers root all with hnone | ⟨front, s, rest, v, hall, hfront, hs⟩
    · exact hnone
    · rw [hall, askEach_first rest hfront hs] at hfailed
      cases hfailed
  · intro hnone
    rw [askEach_failed hnone]

theorem askEach_ne_skipped (all : List Source) :
    (askEach fs servers root all).result ≠ .skipped := by
  rcases answers_cases fs servers root all with hnone | ⟨front, s, rest, v, hall, hfront, hs⟩
  · rw [askEach_failed hnone]
    intro h
    cases h
  · rw [hall, askEach_first rest hfront hs]
    intro h
    cases h

theorem askEach_fetched {all : List Source} {origin : Origin} {v : Json}
    (h : (askEach fs servers root all).result = .fetched origin v) :
    ∃ s ∈ all, s.origin = origin ∧ (ask fs servers root s).result = some v := by
  rcases answers_cases fs servers root all with hnone | ⟨front, s, rest, w, hall, hfront, hs⟩
  · rw [askEach_failed hnone] at h
    cases h
  · rw [hall, askEach_first rest hfront hs] at h
    cases h
    exact ⟨s, by simp [hall], rfl, hs⟩

end Walk

/-! ## Looking up -/

theorem askEach_built (fs : Tree) (servers : Http.Servers) (places : Places) (name : String)
    (rest : List Source) :
    askEach fs servers places.artifactsRoot (builtSources name ++ rest) =
      match ofArtifact fs places name with
      | some finding => ⟨finding, []⟩
      | none => askEach fs servers places.artifactsRoot rest := by
  unfold builtSources ofArtifact
  cases artifact? name with
  | none => rfl
  | some artifact =>
    show askEach fs servers places.artifactsRoot (.built artifact :: rest) = _
    rw [askEach]
    simp only [ask, Option.bind_eq_bind, Option.bind_some]
    cases ofArtifactFile fs (artifact.file places.artifactsRoot) with
    | none => rfl
    | some abi => rfl

theorem askEach_published (fs : Tree) (servers : Http.Servers) (places : Places) (name : String)
    (rest : List Source) :
    askEach fs servers places.artifactsRoot (publishedSources places name ++ rest) =
      match (ofPublished servers places name).result with
      | some finding => ⟨finding, (ofPublished servers places name).requests⟩
      | none =>
        ⟨(askEach fs servers places.artifactsRoot rest).result,
          (ofPublished servers places name).requests ++
            (askEach fs servers places.artifactsRoot rest).requests⟩ := by
  unfold publishedSources ofPublished
  split
  · rw [List.singleton_append, askEach, ← requests_ask fs servers places.artifactsRoot]
    simp only [ask]
    cases (fetch servers (publishedAddress places.etherscanKey) readPublished).result with
    | none => rfl
    | some abi => rfl
  · rfl

theorem askEach_explored (fs : Tree) (servers : Http.Servers) (places : Places)
    (address : Option String) :
    askEach fs servers places.artifactsRoot (exploredSources places address) =
      ⟨(ofExplorer servers places address).result.getD .failed,
        (ofExplorer servers places address).requests⟩ := by
  unfold exploredSources ofExplorer
  cases places.explorer with
  | none => rfl
  | some explorer =>
    cases address with
    | none => by_cases hempty : explorer = "" <;> simp [hempty, askEach]
    | some address =>
      by_cases hempty : explorer = ""
      · simp [hempty, askEach]
      · simp only [Option.filter, bne_iff_ne, ne_eq, hempty, not_false_eq_true, if_true, if_false]
        rw [askEach, ← requests_ask fs servers places.artifactsRoot]
        simp only [ask]
        cases (fetch servers (explorerAddress explorer address) readExplorer).result with
        | none => simp [askEach]
        | some abi => rfl

/-- **Looking up is asking one source after the other.** -/
theorem lookUp_eq_askEach (fs : Tree) (servers : Http.Servers) (places : Places) (name : String)
    (address : Option String) (h : name ∉ skipped) :
    lookUp fs servers places name address =
      askEach fs servers places.artifactsRoot (sources places name address) := by
  have hwalk := askEach_built fs servers places name
    (publishedSources places name ++ exploredSources places address)
  rw [askEach_published, askEach_explored] at hwalk
  unfold lookUp sources
  rw [if_neg (by simpa using h)]
  exact hwalk.symm

theorem lookUp_skipped (fs : Tree) (servers : Http.Servers) (places : Places) (name : String)
    (address : Option String) (h : name ∈ skipped) :
    lookUp fs servers places name address = ⟨.skipped, []⟩ := by
  unfold lookUp
  rw [if_pos (by simpa using h)]

/-! ## Null -/

/-- The permit contract has no build artifact, so its first source is the registry. -/
theorem sources_permitContract (places : Places) (address : Option String) :
    sources places permitContract address =
      .published (publishedAddress places.etherscanKey) :: exploredSources places address := by
  have hartifact : artifact? permitContract = none := by decide +kernel
  unfold sources builtSources publishedSources
  rw [hartifact, if_pos rfl]
  rfl

theorem eq_of_mem_publishedSources {places : Places} {name : String} {s : Source}
    (h : s ∈ publishedSources places name) :
    name = permitContract ∧ s = .published (publishedAddress places.etherscanKey) := by
  unfold publishedSources at h
  split at h
  case isTrue hname => exact ⟨hname, List.mem_singleton.mp h⟩
  case isFalse => cases h

theorem origin_of_mem_exploredSources {places : Places} {address : Option String} {s : Source}
    (h : s ∈ exploredSources places address) : s.origin = .explorer := by
  unfold exploredSources at h
  split at h
  · split at h
    · cases h
    · rw [List.mem_singleton.mp h]
      rfl
  · cases h

theorem eq_published_of_mem {places : Places} {name : String} {address : Option String}
    {s : Source} (h : s ∈ sources places name address) (horigin : s.origin = .etherscan) :
    name = permitContract ∧ s = .published (publishedAddress places.etherscanKey) := by
  unfold sources builtSources at h
  simp only [List.mem_append, List.mem_map] at h
  rcases h with ⟨artifact, _, hs⟩ | hs | hs
  · rw [← hs] at horigin
    cases horigin
  · exact eq_of_mem_publishedSources hs
  · rw [origin_of_mem_exploredSources hs] at horigin
    cases horigin

/-- **Null is fetched from the registry of published sources, and from nowhere else.** What is
fetched is what one of the sources shows. It is null exactly if the contract is the permit contract
and the registry answers with a result whose text is null. -/
theorem fetched_null_iff (fs : Tree) (servers : Http.Servers) (places : Places) (name : String)
    (address : Option String) :
    let finding := (lookUp fs servers places name address).result
    (finding = .skipped ↔ name ∈ skipped) ∧
      (∀ origin v, finding = .fetched origin v →
        ∃ s ∈ sources places name address, s.origin = origin ∧
          Shows fs servers places.artifactsRoot s v) ∧
      ∀ origin, finding = .fetched origin .null ↔
        origin = .etherscan ∧ name = permitContract ∧
          Shows fs servers places.artifactsRoot (.published (publishedAddress places.etherscanKey))
            .null := by
  intro finding
  by_cases hskip : name ∈ skipped
  · have hfinding : finding = .skipped := by
      show (lookUp fs servers places name address).result = .skipped
      rw [lookUp_skipped fs servers places name address hskip]
    rw [hfinding]
    refine ⟨by simp [hskip], by simp, ?_⟩
    intro origin
    constructor
    · intro h
      cases h
    · intro ⟨_, hname, _⟩
      rw [hname] at hskip
      exact absurd hskip (by decide)
  · have hwalk : finding =
        (askEach fs servers places.artifactsRoot (sources places name address)).result := by
      show (lookUp fs servers places name address).result = _
      rw [lookUp_eq_askEach fs servers places name address hskip]
    rw [hwalk]
    refine ⟨by simp [hskip, askEach_ne_skipped], ?_, ?_⟩
    · intro origin v hfetched
      obtain ⟨s, hmem, horigin, hs⟩ := askEach_fetched hfetched
      exact ⟨s, hmem, horigin, ((ask_eq_some_iff ..).mp hs).1⟩
    · intro origin
      constructor
      · intro hfetched
        obtain ⟨s, hmem, horigin, hs⟩ := askEach_fetched hfetched
        obtain ⟨hshows, hnull⟩ := (ask_eq_some_iff ..).mp hs
        obtain ⟨hname, hpublished⟩ := eq_published_of_mem hmem (hnull rfl)
        rw [hpublished] at hshows
        exact ⟨by rw [← horigin, hnull rfl], hname, hshows⟩
      · intro ⟨horigin, hname, hshows⟩
        have hs := (ask_eq_some_iff ..).mpr ⟨hshows, fun _ => rfl⟩
        rw [horigin, hname, sources_permitContract, askEach_cons_some _ hs]
        rfl

/-- A registry of published sources that answers with this text, and explorers with one interface
for all contracts. -/
def serversAnswering (text : String) : Http.Servers := fun request =>
  if request.url.host = .name "api.etherscan.io".toList then some ⟨200, text⟩
  else some ⟨200, "\x7b\"abi\": \"v\"\x7d"⟩

/-- The registry has a result, and its text is null. -/
def nullAnswer : String := "\x7b\"status\": \"1\", \"result\": \"null\"\x7d"

/-- The registry does not know the contract. -/
def unknownAnswer : String := "\x7b\"status\": \"0\", \"result\": \"no source\"\x7d"

def explorerPlaces (explorer : String) : Places := ⟨"src", some explorer, none⟩

theorem ask_published_null :
    (ask ⟨[], []⟩ (serversAnswering nullAnswer) "src"
      (.published (publishedAddress none))).result = some .null :=
  Json.eq_null_of_isNull (by decide +kernel)

/-- The registry says that the result is the text null: null is kept, though the explorer knows the
contract. -/
theorem fetched_null_iff_permitContract :
    (lookUp ⟨[], []⟩ (serversAnswering nullAnswer)
      (explorerPlaces "http://127.0.0.1") permitContract (some "0x11")).result =
        .fetched .etherscan .null := by
  apply ((fetched_null_iff ⟨[], []⟩ _ (explorerPlaces "http://127.0.0.1") permitContract
    (some "0x11")).2.2 _).mpr
  exact ⟨rfl, rfl, ((ask_eq_some_iff ..).mp ask_published_null).1⟩

/-! ## The first source that yields an interface -/

section Yields

variable {fs : Tree} {servers : Http.Servers} {root : String} {s : Source}

/-- An address takes one request, or no server answers there. -/
theorem requestsTo_cases (servers : Http.Servers) (url : String) :
    (∃ request, requestsTo url = [request]) ∨
      (requestsTo url = [] ∧ ∀ content, ¬ Replies servers url content) := by
  unfold requestsTo Replies Http.send
  cases Http.Url.parse url with
  | ok url => exact Or.inl ⟨_, rfl⟩
  | error fault =>
    refine Or.inr ⟨rfl, ?_⟩
    intro content ⟨reply, hreply, _⟩
    cases hreply

/-- To ask a source takes a file, or one request, or there is no way to ask it. -/
theorem requests_cases (fs : Tree) (servers : Http.Servers) (root : String) (s : Source) :
    (∃ artifact, s = .built artifact) ∨ (∃ request, s.requests = [request]) ∨
      (s.requests = [] ∧ ∀ v, ¬ Yields fs servers root s v) := by
  cases s with
  | built artifact => exact Or.inl ⟨artifact, rfl⟩
  | published url =>
    rcases requestsTo_cases servers url with hone | ⟨hnone, hnot⟩
    · exact Or.inr (Or.inl hone)
    · refine Or.inr (Or.inr ⟨hnone, ?_⟩)
      intro v ⟨hshows, _⟩
      cases hshows with
      | published hreplies => exact hnot _ hreplies
  | explored url =>
    rcases requestsTo_cases servers url with hone | ⟨hnone, hnot⟩
    · exact Or.inr (Or.inl hone)
    · refine Or.inr (Or.inr ⟨hnone, ?_⟩)
      intro v ⟨hshows, _⟩
      cases hshows with
      | explored hreplies => exact hnot _ hreplies

theorem ask_eq_some_iff_yields (h : s.origin = .etherscan → ¬ Shows fs servers root s .null)
    (v : Json) : (ask fs servers root s).result = some v ↔ Yields fs servers root s v := by
  rw [ask_eq_some_iff]
  constructor
  · intro ⟨hshows, hnull⟩
    refine ⟨hshows, ?_⟩
    intro hv
    rw [hv] at hshows
    exact h (hnull hv) hshows
  · intro ⟨hshows, hne⟩
    exact ⟨hshows, fun hv => absurd hv hne⟩

theorem ask_eq_none_iff (h : s.origin = .etherscan → ¬ Shows fs servers root s .null) :
    (ask fs servers root s).result = none ↔ ∀ v, ¬ Yields fs servers root s v := by
  rw [Option.eq_none_iff_forall_ne_some]
  simp only [ne_eq, ask_eq_some_iff_yields h]

end Yields

/-- What comes from a build artifact takes no request. -/
theorem requests_of_fetched_artifact (fs : Tree) (servers : Http.Servers) (places : Places)
    (name : String) (address : Option String) (repository : String) (v : Json) :
    (lookUp fs servers places name address).result = .fetched (.artifact repository) v →
      (lookUp fs servers places name address).requests = [] := by
  by_cases hskip : name ∈ skipped
  · rw [lookUp_skipped fs servers places name address hskip]
    intro _
    rfl
  · rw [lookUp_eq_askEach fs servers places name address hskip]
    unfold sources
    rw [askEach_built]
    cases ofArtifact fs places name with
    | some finding =>
      intro _
      rfl
    | none =>
      intro hfetched
      obtain ⟨s, hmem, horigin, _⟩ := askEach_fetched hfetched
      rcases List.mem_append.mp hmem with hs | hs
      · rw [(eq_of_mem_publishedSources hs).2] at horigin
        cases horigin
      · rw [origin_of_mem_exploredSources hs] at horigin
        cases horigin

/-- **The first source that yields an interface settles it.** Unless the registry of published
sources answers for the permit contract with null: the sources are asked in their order up to the
first that yields an interface, and what that source yields is fetched. The lookup fails exactly if
none yields one, all of them having been asked. Each source on the web is asked with one request; one
to which none can be sent yields nothing. Contracts that are skipped and those served from their
build artifact take no request. -/
theorem lookUp_first (fs : Tree) (servers : Http.Servers) (places : Places) (name : String)
    (address : Option String)
    (hnull : name = permitContract → ¬ Shows fs servers places.artifactsRoot
      (.published (publishedAddress places.etherscanKey)) .null) :
    let exchange := lookUp fs servers places name address
    let all := sources places name address
    (name ∈ skipped → exchange = ⟨.skipped, []⟩) ∧
      (name ∉ skipped →
        (∀ front s rest v, all = front ++ s :: rest →
          (∀ t ∈ front, ∀ w, ¬ Yields fs servers places.artifactsRoot t w) →
          Yields fs servers places.artifactsRoot s v →
          exchange = ⟨.fetched s.origin v, (front ++ [s]).flatMap Source.requests⟩) ∧
        (exchange.result = .failed ↔
          ∀ s ∈ all, ∀ v, ¬ Yields fs servers places.artifactsRoot s v) ∧
        (exchange.result = .failed → exchange.requests = all.flatMap Source.requests)) ∧
      (∀ s ∈ all, (∃ artifact, s = .built artifact) ∨ (∃ request, s.requests = [request]) ∨
        (s.requests = [] ∧ ∀ v, ¬ Yields fs servers places.artifactsRoot s v)) ∧
      ∀ repository v, exchange.result = .fetched (.artifact repository) v →
        exchange.requests = [] := by
  intro exchange all
  refine ⟨lookUp_skipped fs servers places name address, ?_, ?_, ?_⟩
  · intro hskip
    have hwalk : exchange = askEach fs servers places.artifactsRoot all :=
      lookUp_eq_askEach fs servers places name address hskip
    have hregistry : ∀ s ∈ all, s.origin = .etherscan →
        ¬ Shows fs servers places.artifactsRoot s .null := by
      intro s hmem horigin
      obtain ⟨hname, hs⟩ := eq_published_of_mem hmem horigin
      rw [hs]
      exact hnull hname
    have hnone : (∀ s ∈ all, (ask fs servers places.artifactsRoot s).result = none) ↔
        ∀ s ∈ all, ∀ v, ¬ Yields fs servers places.artifactsRoot s v :=
      forall₂_congr fun s hmem => ask_eq_none_iff (hregistry s hmem)
    rw [hwalk]
    refine ⟨?_, ?_, ?_⟩
    · intro front s rest v hall hfront hs
      rw [hall]
      apply askEach_first
      · intro t ht
        exact (ask_eq_none_iff (hregistry t (by simp [hall, ht]))).mpr (hfront t ht)
      · exact (ask_eq_some_iff_yields (hregistry s (by simp [hall])) v).mpr hs
    · rw [askEach_failed_iff, hnone]
    · intro hfailed
      rw [askEach_failed ((askEach_failed_iff all).mp hfailed)]
  · intro s _
    exact requests_cases fs servers places.artifactsRoot s
  · intro repository v
    exact requests_of_fetched_artifact fs servers places name address repository v

/-- The registry does not know the contract, so the explorer is asked, and it knows it. -/
theorem lookUp_first_permitContract :
    let places := explorerPlaces "http://127.0.0.1"
    let all := sources places permitContract (some "0x11")
    lookUp ⟨[], []⟩ (serversAnswering unknownAnswer) places permitContract (some "0x11") =
        ⟨.fetched .explorer (.string "v"), all.flatMap Source.requests⟩ ∧
      (all.flatMap Source.requests).length = 2 := by
  intro places all
  let registry := Source.published (publishedAddress none)
  let explorer := Source.explored (explorerAddress "http://127.0.0.1" "0x11")
  have hregistry : (ask ⟨[], []⟩ (serversAnswering unknownAnswer) "src" registry).result = none :=
    Option.isNone_iff_eq_none.mp (by decide +kernel)
  have hexplorer : (ask ⟨[], []⟩ (serversAnswering unknownAnswer) "src" explorer).result =
      some (.string "v") :=
    Json.eq_string_of_text? (by decide +kernel)
  have hnot : ∀ v, ¬ Shows ⟨[], []⟩ (serversAnswering unknownAnswer) "src" registry v := by
    intro v hshows
    rw [(ask_eq_some_iff ..).mpr ⟨hshows, fun _ => rfl⟩] at hregistry
    cases hregistry
  obtain ⟨_, hwalk, _⟩ := lookUp_first ⟨[], []⟩ (serversAnswering unknownAnswer) places
    permitContract (some "0x11") fun _ => hnot .null
  refine ⟨?_, by decide +kernel⟩
  apply (hwalk (by decide)).1 [registry] explorer [] (.string "v") rfl
  · intro t ht v hyields
    rw [List.mem_singleton.mp ht] at hyields
    exact hnot v hyields.1
  · exact ⟨((ask_eq_some_iff ..).mp hexplorer).1, fun h => nomatch h⟩

/-- An explorer whose address names no scheme is asked nothing, and null as the answer of the registry
comes before the interface that an explorer has. -/
theorem lookUp_unreachable :
    (exploredSources (explorerPlaces "explorer.example") (some "0x11") =
          [.explored "explorer.example/api/v2/smart-contracts/0x11"] ∧
        lookUp ⟨[], []⟩ (serversAnswering unknownAnswer) (explorerPlaces "explorer.example")
          "TickLens" (some "0x11") = ⟨.failed, []⟩) ∧
      (lookUp ⟨[], []⟩ (serversAnswering nullAnswer) (explorerPlaces "http://127.0.0.1")
          permitContract (some "0x11")).result = .fetched .etherscan .null ∧
      ∃ s ∈ sources (explorerPlaces "http://127.0.0.1") permitContract (some "0x11"),
        Yields ⟨[], []⟩ (serversAnswering nullAnswer) "src" s (.string "v") := by
  refine ⟨⟨by rfl, ?_⟩, ?_, ?_⟩
  · let all := sources (explorerPlaces "explorer.example") "TickLens" (some "0x11")
    have hnone : ∀ s ∈ all,
        (ask ⟨[], []⟩ (serversAnswering unknownAnswer) "src" s).result = none := by
      have hall : all.all (fun s =>
          (ask ⟨[], []⟩ (serversAnswering unknownAnswer) "src" s).result.isNone) = true := by
        decide +kernel
      simpa using hall
    have hrequests : all.flatMap Source.requests = [] := List.isEmpty_iff.mp (by decide +kernel)
    calc lookUp ⟨[], []⟩ (serversAnswering unknownAnswer) (explorerPlaces "explorer.example")
          "TickLens" (some "0x11")
        = askEach ⟨[], []⟩ (serversAnswering unknownAnswer) "src" all :=
          lookUp_eq_askEach _ _ _ _ _ (by decide)
      _ = ⟨.failed, all.flatMap Source.requests⟩ := askEach_failed hnone
      _ = ⟨.failed, []⟩ := by rw [hrequests]
  · rw [lookUp_eq_askEach _ _ _ _ _ (by decide), sources_permitContract]
    show (askEach ⟨[], []⟩ _ "src" (.published (publishedAddress none) :: _)).result = _
    rw [askEach_cons_some _ ask_published_null]
    rfl
  · have hexplorer : (ask ⟨[], []⟩ (serversAnswering nullAnswer) "src"
        (.explored (explorerAddress "http://127.0.0.1" "0x11"))).result =
          some (.string "v") :=
      Json.eq_string_of_text? (by decide +kernel)
    rw [sources_permitContract]
    exact ⟨_, List.mem_cons_of_mem _ List.mem_cons_self, ((ask_eq_some_iff ..).mp hexplorer).1,
      fun h => nomatch h⟩

end BytecodeParity.Abi
