import BytecodeParity.CommandLine.Collect
import BytecodeParity.Proofs.AddressBook
import BytecodeParity.Proofs.Files.Written
import Mathlib.Data.List.Nodup
/-!
# Where interfaces are written

The path of a contract's file is put together from the directory of the address book, the directory
for interfaces and the name of the contract, which nothing checks. **Without a slash in the name,
the file lies in the directory for interfaces and is named after the contract** (`place_abiFile`),
and to write it at most that directory is made (`furnish_abiFile`). With a slash it lies elsewhere
(`place?_abiFile_iff`): a name that leads up and back leads to the address book itself
(`files_of_run_escaping`).

Whatever the names are, a run that succeeds leaves behind the tree into which what it fetched was
written, contract by contract (`written_of_collectFrom`), and **each file is what was fetched last
for its place, or what it was before** (`files_of_run`).
-/

namespace BytecodeParity.Collect

open Files (Tree)

variable {fs fs' : Tree} {path directory name : String} {place : List String} {value : Json}
  {o : Options}

/-! ## One file -/

/-- What a file with an interface holds. -/
def interfaceText (abi : Json) : ByteArray := (abi.pretty ++ "\n").toUTF8

/-- Makes the directories in which the file of a path is to lie. -/
def furnish (fs : Tree) (path : String) : Tree × Except Files.Fault Unit :=
  match Path.parent? path with
  | some parent => fs.makeDirectories parent
  | none => (fs, .ok ())

theorem furnish_furnished (fs : Tree) (path : String) : Tree.Furnished fs (furnish fs path).1 := by
  rw [furnish]
  split
  · exact Tree.makeDirectories_furnished _ _
  · exact Tree.Furnished.refl fs

theorem writeJson_eq (fs : Tree) (path : String) (value : Json) :
    writeJson fs path value =
      match (furnish fs path).2 with
      | .error e => ((furnish fs path).1, .error e)
      | .ok () =>
        match (furnish fs path).1.write path (interfaceText value) with
        | .ok fs => (fs, .ok ())
        | .error e => ((furnish fs path).1, .error e) := rfl

/-- **Writing a value** makes directories and then writes one file. -/
theorem of_writeJson (h : writeJson fs path value = (fs', .ok ())) :
    (furnish fs path).1.write path (interfaceText value) = .ok fs' := by
  rw [writeJson_eq] at h
  split at h
  · cases h
  · split at h
    next hwrite => rw [hwrite, (Prod.mk.inj h).1]
    · cases h

/-- **A value that was written is found at its path**, and all other files are what they were. -/
theorem wrote_of_writeJson (h : writeJson fs path value = (fs', .ok ())) :
    ∃ place, Tree.Wrote fs fs' path place (interfaceText value) := by
  obtain ⟨place, last, hslot, hslash, hentry, rfl⟩ := Tree.of_write (of_writeJson h)
  exact ⟨_, (furnish_furnished fs path).wrote (Tree.wrote_put hslot hslash hentry)⟩

/-! ## The file of a contract -/

theorem plain_abis : Path.Plain "abis" := by decide

/-- A text without a slash is the name of a file once it has its ending. -/
theorem plain_fileName (h : '/' ∉ name.toList) : Path.Plain (name ++ ".json") where
  ne_empty := by simp
  notMem := by simpa using h

theorem fileName_ne (name : String) : name ++ ".json" ≠ "." ∧ name ++ ".json" ≠ ".." := by
  have hending : ".json".length = 5 := rfl
  have hhere : ".".length = 1 := rfl
  have hup : "..".length = 2 := rfl
  constructor <;>
  · intro h
    have hlength := congrArg String.length h
    rw [String.length_append] at hlength
    omega

/-- The names on the path of a contract's file, where its name is a name for a file. -/
theorem names_abiFile (h : '/' ∉ name.toList) :
    Path.names (abiFile o name) = Path.names o.addressDirectory ++ ["abis", name ++ ".json"] := by
  have hname := plain_fileName h
  rw [abiFile, abiDirectory, Path.names_join (Path.isAbsolute_of_plain hname),
    Path.names_join (Path.isAbsolute_of_plain plain_abis), Path.names_of_plain hname,
    Path.names_of_plain plain_abis, List.append_assoc]
  rfl

theorem isAbsolute_abiFile (h : '/' ∉ name.toList) :
    Path.isAbsolute (abiFile o name) = Path.isAbsolute o.addressDirectory := by
  rw [abiFile, abiDirectory, Path.isAbsolute_join (Path.isAbsolute_of_plain (plain_fileName h)),
    Path.isAbsolute_join (Path.isAbsolute_of_plain plain_abis)]

theorem endsInSlash_abiFile (h : '/' ∉ name.toList) :
    Path.endsInSlash (abiFile o name) = false := by
  have hname := plain_fileName h
  rw [abiFile, Path.endsInSlash_join (Path.isAbsolute_of_plain hname) hname.ne_empty,
    Path.endsInSlash_of_plain hname]

/-- **Above a contract's file, nothing but the directory for interfaces is made.** -/
theorem furnish_abiFile (h : '/' ∉ name.toList)
    (hplace : fs.DirectoryAt o.addressDirectory place) :
    (furnish fs (abiFile o name)).1 = fs ∨
      fs.entry? (place ++ ["abis"]) = none ∧
        (furnish fs (abiFile o name)).1 = fs.put (place ++ ["abis"]) .directory := by
  obtain ⟨front, hparent, hmoves, hplain⟩ :=
    Path.exists_parent?_eq (names_abiFile h) (by decide) (fileName_ne name).1
  rw [isAbsolute_abiFile h] at hparent
  have habsolute := Path.isAbsolute_ofNames hplain (Path.isAbsolute o.addressDirectory)
  rw [furnish, hparent]
  dsimp only
  generalize hpath : Path.ofNames (Path.isAbsolute o.addressDirectory) (front ++ ["abis"]) = path
    at habsolute
  cases hstart : fs.start path with
  | error f => exact .inl (Tree.makeDirectories_of_start_error hstart)
  | ok start =>
    have hbase : start = fs.base o.addressDirectory := by
      rw [Tree.eq_base_of_start hstart, Tree.base, Tree.base, habsolute]
    -- Names for "here" apart, the parent has the names of the address book's directory.
    have hfollow : fs.follow start front = .ok place := by
      refine (Tree.follow_concat_here_iff.mp ?_).1
      rw [← Tree.follow_moves, hmoves, Tree.follow_moves, hbase]
      exact Tree.follow_concat_here_iff.mpr ⟨hplace.follow_eq, hplace.entry_eq⟩
    refine Tree.of_makeDirectories rfl (Tree.slot_eq_some_iff.mpr
      ⟨start, front, hstart, ?_, hfollow, hplace.entry_eq, by decide⟩)
    rw [← hpath, Path.names_ofNames hplain (by simp)]

/-- **Where the file of a contract lies**, if its name is a name for a file. -/
theorem place_abiFile (h : '/' ∉ name.toList) (hplace : fs.DirectoryAt o.addressDirectory place)
    {q : List String} {e : Files.Entry} (hlocate : fs.locate (abiFile o name) = .ok (q, e)) :
    q = place ++ ["abis", name ++ ".json"] := by
  obtain ⟨start, hstart, hfollow, -⟩ := Tree.locate_eq_ok_iff.mp hlocate
  have hbase : start = fs.base o.addressDirectory := by
    rw [Tree.eq_base_of_start hstart, Tree.base, Tree.base, isAbsolute_abiFile h]
  have hnames : Path.names (abiFile o name) =
      (Path.names o.addressDirectory ++ ["abis"]) ++ [name ++ ".json"] := by
    rw [names_abiFile h, List.append_assoc]
    rfl
  rw [endsInSlash_abiFile h, if_neg Bool.false_ne_true, List.append_nil, hnames, hbase] at hfollow
  obtain ⟨hhere, hup⟩ := fileName_ne name
  obtain ⟨p, hp, -, rfl⟩ := Tree.of_follow_concat hfollow hhere hup
  obtain ⟨p', hp', -, rfl⟩ := Tree.of_follow_concat hp (by decide) (by decide)
  rw [hplace.follow_eq] at hp'
  rw [Except.ok.inj hp', List.append_assoc]
  rfl

/-! ## A whole run -/

/-- What is written for what was found, and where. -/
def writes (o : Options) (findings : List (String × Abi.Finding)) : List (String × ByteArray) :=
  findings.filterMap fun f =>
    match f.2 with
    | .fetched _ abi => some (abiFile o f.1, interfaceText abi)
    | _ => none

theorem writes_append (o : Options) (findings findings' : List (String × Abi.Finding)) :
    writes o (findings ++ findings') = writes o findings ++ writes o findings' :=
  List.filterMap_append

/-- How far collecting has come once a contract was looked up and a tree left behind. -/
def Progress.after (p : Progress) (colours : Bool) (o : Options) (name : String)
    (address : Option String) (lookup : Http.Exchange Abi.Finding) (fs : Tree) : Progress where
  files := fs
  lines := p.lines ++ announcement colours name address ++
    [findingLine colours o.dryRun lookup.result]
  findings := p.findings ++ [(name, lookup.result)]
  requests := p.requests ++ lookup.requests

variable {colours : Bool} {servers : Http.Servers} {places : Abi.Places} {book : AddressBook}
  {names : List String} {p p' : Progress} {finding : Abi.Finding}

/-- What collecting does for the first contract, where it gets to the end. -/
theorem of_collectFrom_cons
    (h : collectFrom colours servers o places book (name :: names) p = (p', none)) :
    ∃ fs, save p.files o name (Abi.lookUp p.files servers places name
        (book.deployedAddress? name)).result = (fs, .ok ()) ∧
      collectFrom colours servers o places book names
        (p.after colours o name (book.deployedAddress? name)
          (Abi.lookUp p.files servers places name (book.deployedAddress? name)) fs) =
        (p', none) := by
  rw [collectFrom] at h
  dsimp only at h
  split at h
  · cases h
  next fs hsave => exact ⟨fs, hsave, h⟩

/-- **One contract**: its interface is written, or nothing is. -/
theorem written_of_save (hreal : o.dryRun = false)
    (h : save fs o name finding = (fs', .ok ())) :
    Tree.Written fs (writes o [(name, finding)]) fs' := by
  cases finding with
  | fetched origin abi =>
    rw [save, if_neg (by simp [hreal])] at h
    obtain ⟨_, hwrote⟩ := wrote_of_writeJson h
    exact .cons hwrote .nil
  | skipped =>
    obtain ⟨⟩ := h
    exact .nil
  | failed =>
    obtain ⟨⟩ := h
    exact .nil

/-- **All contracts**: each is looked up, in order, and the interfaces found are written. -/
theorem written_of_collectFrom (hreal : o.dryRun = false)
    (h : collectFrom colours servers o places book names p = (p', none)) :
    ∃ findings, p'.findings = p.findings ++ findings ∧ findings.map Prod.fst = names ∧
      Tree.Written p.files (writes o findings) p'.files := by
  induction names generalizing p with
  | nil =>
    obtain ⟨⟩ := h
    exact ⟨[], by simp, rfl, .nil⟩
  | cons name names ih =>
    obtain ⟨fs, hsave, hrest⟩ := of_collectFrom_cons h
    obtain ⟨findings, hfindings, hnames, hwritten⟩ := ih hrest
    refine ⟨(name, (Abi.lookUp p.files servers places name
      (book.deployedAddress? name)).result) :: findings, ?_, ?_, ?_⟩
    · rw [hfindings, Progress.after, List.append_assoc]
      rfl
    · rw [List.map_cons, hnames]
    · rw [← List.singleton_append, writes_append]
      exact (written_of_save hreal hsave).append hwritten

/-- In a dry run nothing is written, whatever is found. -/
theorem save_dryRun (hdry : o.dryRun = true) (fs : Tree) (name : String)
    (finding : Abi.Finding) : save fs o name finding = (fs, .ok ()) := by
  cases finding with
  | fetched origin abi => rw [save, if_pos hdry]
  | skipped => rfl
  | failed => rfl

/-- Without writing, the files stay. -/
theorem files_of_dryRun (hdry : o.dryRun = true) :
    (collectFrom colours servers o places book names p).1.files = p.files := by
  induction names generalizing p with
  | nil => rfl
  | cons name names ih =>
    rw [collectFrom]
    simp only [save_dryRun hdry]
    exact ih

/-! ## What a run leaves in the files -/

/-- The address book lies in a directory. -/
theorem directoryAt_of_ofDirectory {network : Network}
    (h : AddressBook.ofDirectory fs directory network = .ok book) :
    ∃ place content, fs.DirectoryAt directory place ∧
      fs.locate (Path.join directory network.addressFile) =
        .ok (place ++ [network.addressFile], .file content) := by
  obtain ⟨q, content, _, hlocate, -, -⟩ := AddressBook.of_ofFile h
  have hplain : Path.Plain network.addressFile := by cases network <;> decide
  have hproper : network.addressFile ≠ "." ∧ network.addressFile ≠ ".." := by
    cases network <;> decide
  have habsolute := Path.isAbsolute_of_plain hplain
  obtain ⟨start, hstart, hfollow, -⟩ := Tree.locate_eq_ok_iff.mp hlocate
  rw [Path.endsInSlash_join habsolute hplain.ne_empty, Path.endsInSlash_of_plain hplain,
    if_neg Bool.false_ne_true, List.append_nil, Path.names_join habsolute,
    Path.names_of_plain hplain, Tree.eq_base_of_start hstart, Tree.base,
    Path.isAbsolute_join habsolute] at hfollow
  obtain ⟨place, hplace, hdirectory, rfl⟩ := Tree.of_follow_concat hfollow hproper.1 hproper.2
  exact ⟨place, content, ⟨hplace, hdirectory⟩, hlocate⟩

/-- A run of the command that gets to its end. -/
theorem of_collect {w : World} {environment : Environment} {settings : Settings}
    (h : (collect w environment settings o).ending.failure = none) :
    ∃ book root p,
      AddressBook.ofDirectory w.files o.addressDirectory .testnet = .ok book ∧
        artifactsRoot w.files settings o = .ok root ∧
        collectFrom (Style.forcedBy environment) w.servers o
            ⟨root, book.blockExplorer, settings.etherscanKey⟩ book (Abi.contractsToLookUp book)
            ⟨w.files, opening (Style.forcedBy environment) o ++ deploymentLines book, [], []⟩ =
          (p, none) ∧
        collect w environment settings o =
          ⟨p, p.lines ++ summaryLines o settings.etherscanKey.isSome p.findings, none, p.files,
            environment⟩ := by
  rw [collect] at h ⊢
  dsimp only at h ⊢
  split at h
  · cases h
  next book hbook =>
    split at h
    · cases h
    next root hroot =>
      split at h
      · cases h
      next p hp =>
        exact ⟨book, root, p, hbook, hroot, hp, rfl⟩

/-- A run of the command that reads an address book and looks up all contracts. -/
theorem collect_eq {w : World} {environment : Environment} {settings : Settings} {root : String}
    (hbook : AddressBook.ofDirectory w.files o.addressDirectory .testnet = .ok book)
    (hroot : artifactsRoot w.files settings o = .ok root)
    (hp : collectFrom (Style.forcedBy environment) w.servers o
        ⟨root, book.blockExplorer, settings.etherscanKey⟩ book (Abi.contractsToLookUp book)
        ⟨w.files, opening (Style.forcedBy environment) o ++ deploymentLines book, [], []⟩ =
      (p, none)) :
    collect w environment settings o =
      ⟨p, p.lines ++ summaryLines o settings.etherscanKey.isSome p.findings, none, p.files,
        environment⟩ := by
  rw [collect]
  dsimp only
  rw [hbook]
  dsimp only
  rw [hroot]
  dsimp only
  rw [hp]

/-- The files after a run, of which these are the findings, where the address book lies at a
place. -/
structure InterfacesWritten (before after : Tree) (o : Options) (place : List String)
    (findings : List (String × Abi.Finding)) : Prop where
  /-- Every interface fetched was written. -/
  written : ∀ name origin abi, (name, Abi.Finding.fetched origin abi) ∈ findings →
    after.isFile (abiFile o name) = true
  /-- Where files of contracts lie, there is what was fetched last; all else is as before. -/
  file_iff : ∀ q content, after.entry? q = some (.file content) ↔
    match after.lastWrite q (writes o findings) with
    | some written => content = written
    | none => before.entry? q = some (.file content)
  /-- The file of a contract lies in the directory for interfaces and is named after the contract,
  unless there is a slash in its name. -/
  inside_iff : ∀ name origin abi, (name, Abi.Finding.fetched origin abi) ∈ findings →
    (after.place? (abiFile o name) = some (place ++ ["abis", name ++ ".json"]) ↔
      '/' ∉ name.toList)
  /-- Without slashes, each contract has a file of its own, and other files are as before. -/
  own_file : (∀ name origin abi, (name, Abi.Finding.fetched origin abi) ∈ findings →
      '/' ∉ name.toList) →
    ∀ q content, after.entry? q = some (.file content) ↔
      (∃ name origin abi, (name, Abi.Finding.fetched origin abi) ∈ findings ∧
        q = place ++ ["abis", name ++ ".json"] ∧ content = interfaceText abi) ∨
      (∀ name origin abi, (name, Abi.Finding.fetched origin abi) ∈ findings →
        q ≠ place ++ ["abis", name ++ ".json"]) ∧ before.entry? q = some (.file content)

variable {before after : Tree} {findings : List (String × Abi.Finding)}

theorem mem_writes {content : ByteArray} : (path, content) ∈ writes o findings ↔
    ∃ name origin abi, (name, Abi.Finding.fetched origin abi) ∈ findings ∧
      path = abiFile o name ∧ content = interfaceText abi := by
  rw [writes, List.mem_filterMap]
  constructor
  · rintro ⟨⟨name, finding⟩, hmem, hfinding⟩
    cases finding with
    | fetched origin abi =>
      obtain ⟨⟩ := hfinding
      exact ⟨name, origin, abi, hmem, rfl, rfl⟩
    | skipped => cases hfinding
    | failed => cases hfinding
  · rintro ⟨name, origin, abi, hmem, rfl, rfl⟩
    exact ⟨_, hmem, rfl⟩

theorem fetched_unique (hnodup : (findings.map Prod.fst).Nodup) {origin origin' : Abi.Origin}
    {abi abi' : Json} (h : (name, Abi.Finding.fetched origin abi) ∈ findings)
    (h' : (name, Abi.Finding.fetched origin' abi') ∈ findings) : abi = abi' := by
  have hsame := List.inj_on_of_nodup_map hnodup h h' rfl
  injection (Prod.mk.inj hsame).2

/-- A file that was written lies in the directory for interfaces and has the name of the contract,
unless there is a slash in that. -/
theorem place?_abiFile_iff (hplace : after.DirectoryAt o.addressDirectory place)
    (h : ∃ p last content, last ∈ Path.names (abiFile o name) ∧
      after.locate (abiFile o name) = .ok (p ++ [last], .file content)) :
    after.place? (abiFile o name) = some (place ++ ["abis", name ++ ".json"]) ↔
      '/' ∉ name.toList := by
  obtain ⟨p, last, content, hlast, hfile⟩ := h
  rw [Tree.place?, hfile]
  constructor
  · intro hp
    have hsame : p ++ [last] = (place ++ ["abis"]) ++ [name ++ ".json"] := by
      simpa [Except.toOption] using hp
    have hname : last = name ++ ".json" := List.singleton_inj.mp (List.append_inj' hsame rfl).2
    have hplain := (Path.plain_of_mem_names hlast).notMem
    rw [hname] at hplain
    simpa using hplain
  · intro hslash
    rw [place_abiFile hslash hplace hfile]
    rfl

/-- Contracts whose files lie in the directory for interfaces each have the last content to
themselves. -/
theorem lastWrite_iff (hnodup : (findings.map Prod.fst).Nodup)
    (hinside : ∀ name origin abi, (name, Abi.Finding.fetched origin abi) ∈ findings →
      after.place? (abiFile o name) = some (place ++ ["abis", name ++ ".json"]))
    (q : List String) (content : ByteArray) :
    after.lastWrite q (writes o findings) = some content ↔
      ∃ name origin abi, (name, Abi.Finding.fetched origin abi) ∈ findings ∧
        q = place ++ ["abis", name ++ ".json"] ∧ content = interfaceText abi := by
  have hlast {q : List String} {content : ByteArray}
      (h : after.lastWrite q (writes o findings) = some content) :
      ∃ name origin abi, (name, Abi.Finding.fetched origin abi) ∈ findings ∧
        q = place ++ ["abis", name ++ ".json"] ∧ content = interfaceText abi := by
    obtain ⟨path, hmem, hpath⟩ := Tree.mem_of_lastWrite h
    obtain ⟨name, origin, abi, hfetched, rfl, rfl⟩ := mem_writes.mp hmem
    rw [hinside name origin abi hfetched] at hpath
    exact ⟨name, origin, abi, hfetched, (Option.some.inj hpath).symm, rfl⟩
  refine ⟨hlast, ?_⟩
  rintro ⟨name, origin, abi, hfetched, rfl, rfl⟩
  cases h : after.lastWrite (place ++ ["abis", name ++ ".json"]) (writes o findings) with
  | none =>
    have hnone := Tree.lastWrite_eq_none_iff.mp h _
      (mem_writes.mpr ⟨name, origin, abi, hfetched, rfl, rfl⟩)
    exact absurd (hinside name origin abi hfetched) hnone
  | some content =>
    obtain ⟨name', origin', abi', hfetched', hq, rfl⟩ := hlast h
    obtain rfl : name = name' := by simpa using hq
    rw [fetched_unique hnodup hfetched hfetched']

/-- **What was written, in the files after a run.** -/
theorem interfacesWritten (hplace : before.DirectoryAt o.addressDirectory place)
    (hnodup : (findings.map Prod.fst).Nodup) (h : before.Written (writes o findings) after) :
    InterfacesWritten before after o place findings := by
  have hplace' := h.grows.directoryAt hplace
  have hfile (name : String) (origin : Abi.Origin) (abi : Json)
      (hmem : (name, Abi.Finding.fetched origin abi) ∈ findings) :=
    h.locate _ (mem_writes.mpr ⟨name, origin, abi, hmem, rfl, rfl⟩)
  have hinside (name : String) (origin : Abi.Origin) (abi : Json)
      (hmem : (name, Abi.Finding.fetched origin abi) ∈ findings) :=
    place?_abiFile_iff hplace' (hfile name origin abi hmem)
  refine ⟨fun name origin abi hmem => ?_, h.file_iff, hinside, fun hslash q content => ?_⟩
  · obtain ⟨p, last, content, -, hlocate⟩ := hfile name origin abi hmem
    rw [Tree.isFile, hlocate]
  · have hlast := lastWrite_iff hnodup (fun name origin abi hmem =>
      (hinside name origin abi hmem).mpr (hslash name origin abi hmem)) q
    rw [h.file_iff q content]
    cases hq : after.lastWrite q (writes o findings) with
    | some written =>
      obtain ⟨name, origin, abi, hfetched, hname, hwritten⟩ := (hlast written).mp hq
      constructor
      · rintro rfl
        exact .inl ⟨name, origin, abi, hfetched, hname, hwritten⟩
      · rintro (hown | ⟨hnone, -⟩)
        · exact (Option.some.inj (hq.symm.trans ((hlast content).mpr hown))).symm
        · exact absurd hname (hnone name origin abi hfetched)
    | none =>
      have hnone (content : ByteArray) : after.lastWrite q (writes o findings) ≠ some content := by
        simp [hq]
      constructor
      · intro hbefore
        refine .inr ⟨fun name origin abi hfetched hname => ?_, hbefore⟩
        exact hnone _ ((hlast _).mpr ⟨name, origin, abi, hfetched, hname, rfl⟩)
      · rintro (hown | ⟨-, hbefore⟩)
        · exact absurd ((hlast content).mpr hown) (hnone content)
        · exact hbefore

theorem failure_of_status {e : Ending} (h : e.status = 0) : e.failure = none := by
  cases hfailure : e.failure with
  | none => rfl
  | some f =>
    rw [Ending.status, hfailure] at h
    cases h

/-- A run that succeeds has settings. -/
theorem of_run {w : World} (h : (run w o).status = 0) :
    ∃ environment settings,
      Settings.select w.files w.environment o.config = (environment, .ok settings) ∧
        run w o = (collect w environment settings o).ending ∧
        (collect w environment settings o).ending.failure = none := by
  have hfailure := failure_of_status h
  rw [run] at hfailure ⊢
  split at hfailure
  · cases hfailure
  next environment settings hselect => exact ⟨environment, settings, hselect, rfl, hfailure⟩

theorem files_of_run_dryRun {w : World} (hdry : o.dryRun = true) : (run w o).files = w.files := by
  rw [run]
  split
  · rfl
  · rw [collect]
    dsimp only
    split
    · rfl
    · split
      · rfl
      · split
        next hcollect =>
          exact (congrArg (fun r => r.1.files) hcollect).symm.trans (files_of_dryRun hdry)
        next hcollect =>
          exact (congrArg (fun r => r.1.files) hcollect).symm.trans (files_of_dryRun hdry)

/-- **A run writes the interfaces that it fetched, and a dry run writes nothing.** -/
theorem files_of_run (w : World) (o : Options) :
    (o.dryRun = true → (run w o).files = w.files) ∧
      (o.dryRun = false → (run w o).status = 0 →
        ∃ environment settings place content,
          Settings.select w.files w.environment o.config = (environment, .ok settings) ∧
            w.files.locate (Path.join o.addressDirectory "addresses.json") =
              .ok (place ++ ["addresses.json"], .file content) ∧
            InterfacesWritten w.files (run w o).files o place
              (collect w environment settings o).progress.findings) := by
  refine ⟨files_of_run_dryRun, fun hreal hstatus => ?_⟩
  obtain ⟨environment, settings, hselect, hrun, hfailure⟩ := of_run hstatus
  obtain ⟨book, root, p, hbook, -, hp, hcollect⟩ := of_collect hfailure
  obtain ⟨place, content, hplace, hlocate⟩ := directoryAt_of_ofDirectory hbook
  obtain ⟨findings, hfindings, hnames, hwritten⟩ := written_of_collectFrom hreal hp
  rw [List.nil_append] at hfindings
  have hnodup : (p.findings.map Prod.fst).Nodup := by
    rw [hfindings, hnames]
    exact Abi.nodup_contractsToLookUp (AddressBook.ascending_of_ofDirectory hbook)
  refine ⟨environment, settings, place, content, hselect, hlocate, ?_⟩
  rw [hrun, hcollect]
  exact interfacesWritten hplace hnodup (hfindings ▸ hwritten)

/-- An address book with a contract whose name leads back to it. -/
def escapingWorld : World where
  files :=
    ⟨[(["addresses.json"],
      .file "\x7b\"contracts\": \x7b\"../addresses\": \"0x11\"\x7d, \"blockExplorer\": \"http://127.0.0.1\"\x7d".toUTF8)],
    []⟩
  environment := []
  servers := fun _ => some ⟨200, "\x7b\"abi\": []\x7d"⟩

/-- The interface of such a contract takes the place of the address book. -/
theorem files_of_run_escaping :
    let o : Options := ⟨some "env", ".", none, false⟩
    (∃ environment settings place content,
      Settings.select escapingWorld.files escapingWorld.environment o.config =
          (environment, .ok settings) ∧
        escapingWorld.files.locate (Path.join o.addressDirectory "addresses.json") =
          .ok (place ++ ["addresses.json"], .file content) ∧
        InterfacesWritten escapingWorld.files (run escapingWorld o).files o place
          (collect escapingWorld environment settings o).progress.findings) ∧
      ((run escapingWorld o).files.readText "addresses.json").toOption = some "[]\n" := by
  intro o
  have h : (run escapingWorld o).status = 0 ∧
      ((run escapingWorld o).files.readText "addresses.json").toOption = some "[]\n" := by
    decide +kernel
  exact ⟨(files_of_run escapingWorld o).2 rfl h.1, h.2⟩

end BytecodeParity.Collect
