import BytecodeParity.Files.Tree
import BytecodeParity.Proofs.Files.Path
/-!
# What operations leave alone

A tree is changed in one place at a time, by `put`. What an operation on a path leaves alone is
therefore a question of where the path leads, and that is decided by the directories that it passes.
Making directories and writing files never take a directory away, so **a path that led somewhere
leads there still** (`Grows.follow_eq`), and a tree that agrees with another one along a path leads
to the same place (`follow_congr`).

What is known about an operation is said once, without the text of its path: directories are made
where nothing was (`makeDirectories_furnished`), and a file that is written is found at its path,
all other files being what they were (`of_write`).
-/

namespace BytecodeParity.Files

namespace Tree

variable {fs fs' fs'' : Tree} {place origin q : List String} {ns ms : List String}
  {path last : String} {content : ByteArray} {e : Entry}

/-! ## Entries -/

theorem entry?_of_ne_nil (h : place ≠ []) :
    fs.entry? place = OrderedMap.find? place fs.entries := by
  unfold entry?
  rw [if_neg (by simpa using h)]

@[simp] theorem entry?_root : fs.entry? [] = some .directory := rfl

@[simp] theorem entry?_put_self (h : place ≠ []) : entry? (fs.put place e) place = some e := by
  rw [entry?_of_ne_nil h]
  exact OrderedMap.find?_insert_self place e fs.entries

theorem entry?_put_of_ne (h : q ≠ place) : entry? (fs.put place e) q = fs.entry? q := by
  by_cases hq : q = []
  · rw [hq, entry?_root, entry?_root]
  · rw [entry?_of_ne_nil hq, entry?_of_ne_nil hq]
    exact OrderedMap.find?_insert_of_ne h e fs.entries

/-! ## Following names -/

/-- What the next name is looked for in. -/
theorem follow_cons (place : List String) (n : String) (ns : List String) :
    fs.follow place (n :: ns) =
      match fs.entry? place with
      | none => .error .notFound
      | some (.file _) => .error .notDirectory
      | some .directory =>
        if n = "." then fs.follow place ns
        else if n = ".." then fs.follow place.dropLast ns
        else if nameLimit < n.utf8ByteSize then .error .nameTooLong
        else fs.follow (place ++ [n]) ns := rfl

theorem follow_append (place : List String) (ns ms : List String) :
    fs.follow place (ns ++ ms) = (fs.follow place ns).bind fun p => fs.follow p ms := by
  induction ns generalizing place with
  | nil => rfl
  | cons n ns ih =>
    rw [List.cons_append, follow_cons, follow_cons]
    split
    · rfl
    · rfl
    · split
      · exact ih place
      · split
        · exact ih place.dropLast
        · split
          · rfl
          · exact ih (place ++ [n])

/-- The name for "here" asks for a directory and leads nowhere. -/
theorem follow_here_iff : fs.follow place ["."] = .ok q ↔
    q = place ∧ fs.entry? place = some .directory := by
  rw [follow_cons]
  split
  next h => simp [h]
  next h => simp [h]
  next h => simp [h, follow, eq_comm]

/-- Of a path that leads into a directory, where the last step is taken from. -/
theorem follow_concat_here_iff : fs.follow place (ns ++ ["."]) = .ok q ↔
    fs.follow place ns = .ok q ∧ fs.entry? q = some .directory := by
  rw [follow_append]
  cases fs.follow place ns with
  | error f => simp [Except.bind]
  | ok p =>
    rw [Except.bind, follow_here_iff, Except.ok.injEq]
    constructor
    · rintro ⟨rfl, h⟩
      exact ⟨rfl, h⟩
    · rintro ⟨rfl, h⟩
      exact ⟨rfl, h⟩

/-- The last name of a path is looked for in the directory to which the others lead. -/
theorem of_follow_concat {n : String} (h : fs.follow place (ns ++ [n]) = .ok q) (hhere : n ≠ ".")
    (hup : n ≠ "..") :
    ∃ p, fs.follow place ns = .ok p ∧ fs.entry? p = some .directory ∧ q = p ++ [n] := by
  rw [follow_append] at h
  cases hp : fs.follow place ns with
  | error f =>
    rw [hp] at h
    cases h
  | ok p =>
    rw [hp, Except.bind, follow_cons] at h
    split at h
    · cases h
    · cases h
    next hdirectory =>
      rw [if_neg hhere, if_neg hup] at h
      split at h
      · cases h
      · exact ⟨p, rfl, hdirectory, (Except.ok.inj h).symm⟩

/-- A name that is no name for "here" or "up". -/
structure Proper (n : String) : Prop where
  ne_here : n ≠ "."
  ne_up : n ≠ ".."
  size_le : n.utf8ByteSize ≤ nameLimit

instance (n : String) : Decidable (Proper n) :=
  decidable_of_iff (n ≠ "." ∧ n ≠ ".." ∧ n.utf8ByteSize ≤ nameLimit)
    ⟨fun h => ⟨h.1, h.2.1, h.2.2⟩, fun h => ⟨h.1, h.2, h.3⟩⟩

theorem follow_cons_of_proper (h : fs.entry? place = some .directory) {n : String} (hn : Proper n)
    (ns : List String) : fs.follow place (n :: ns) = fs.follow (place ++ [n]) ns := by
  rw [follow_cons, h]
  dsimp only
  rw [if_neg hn.ne_here, if_neg hn.ne_up, if_neg (Nat.not_lt.mpr hn.size_le)]

/-- Proper names lead down. -/
theorem eq_append_of_follow (hns : ∀ n ∈ ns, Proper n) (h : fs.follow place ns = .ok q) :
    q = place ++ ns := by
  induction ns generalizing place with
  | nil => rw [List.append_nil, Except.ok.inj h]
  | cons n ns ih =>
    obtain ⟨hn, hns⟩ := List.forall_mem_cons.mp hns
    have hdirectory : fs.entry? place = some .directory := by
      rw [follow_cons] at h
      split at h
      · cases h
      · cases h
      next hentry => exact hentry
    rw [follow_cons_of_proper hdirectory hn] at h
    rw [ih hns h, List.append_assoc]
    rfl

/-- **Names for "here" do not count** where more follows. -/
theorem follow_moves (place : List String) (ns : List String) :
    fs.follow place (Path.moves ns ++ ["."]) = fs.follow place (ns ++ ["."]) := by
  induction ns generalizing place with
  | nil => rfl
  | cons n ns ih =>
    by_cases hn : n = "."
    · have hmoves : Path.moves (n :: ns) = Path.moves ns := by
        rw [hn]
        rfl
      rw [hmoves, ih, List.cons_append, follow_cons, hn]
      -- The rest is not empty, so it begins with the same look at the place.
      obtain ⟨m, rest, hrest⟩ := List.exists_cons_of_ne_nil (List.append_ne_nil_of_right_ne_nil ns
        (List.cons_ne_nil "." []))
      rw [hrest, follow_cons]
      split
      · rfl
      · rfl
      · rw [if_pos rfl]
    · have hmoves : Path.moves (n :: ns) = n :: Path.moves ns :=
        List.filter_cons_of_pos (by simpa using hn)
      rw [hmoves, List.cons_append, List.cons_append, follow_cons, follow_cons]
      simp only [ih]

/-! ## Trees that grow -/

/-- A tree in which nothing was taken away: directories are there still, and where a file was there
is one. -/
structure Grows (fs fs' : Tree) : Prop where
  workingDirectory_eq : fs'.workingDirectory = fs.workingDirectory
  directory : ∀ p, fs.entry? p = some .directory → fs'.entry? p = some .directory
  file : ∀ p content, fs.entry? p = some (.file content) →
    ∃ content', fs'.entry? p = some (.file content')

theorem Grows.refl (fs : Tree) : Grows fs fs :=
  ⟨rfl, fun _ h => h, fun _ content h => ⟨content, h⟩⟩

theorem Grows.trans (h : Grows fs fs') (h' : Grows fs' fs'') : Grows fs fs'' where
  workingDirectory_eq := h'.workingDirectory_eq.trans h.workingDirectory_eq
  directory p hp := h'.directory p (h.directory p hp)
  file p content hp := by
    obtain ⟨content', hp'⟩ := h.file p content hp
    exact h'.file p content' hp'

/-- **A path that led somewhere leads there still.** -/
theorem Grows.follow_eq (h : Grows fs fs') (hplace : fs.follow place ns = .ok q) :
    fs'.follow place ns = .ok q := by
  induction ns generalizing place with
  | nil => exact hplace
  | cons n ns ih =>
    rw [follow_cons] at hplace ⊢
    split at hplace
    · cases hplace
    · cases hplace
    next hentry =>
      rw [h.directory place hentry]
      dsimp only
      split at hplace
      next hn => rw [if_pos hn]; exact ih hplace
      next hn =>
        rw [if_neg hn]
        split at hplace
        next hup => rw [if_pos hup]; exact ih hplace
        next hup =>
          rw [if_neg hup]
          split at hplace
          · cases hplace
          next hlimit => rw [if_neg hlimit]; exact ih hplace

theorem Grows.start_eq (h : Grows fs fs') (path : String) : fs'.start path = fs.start path := by
  rw [start, start, h.workingDirectory_eq]

/-- **Trees that agree along a path lead to the same place.** -/
theorem follow_congr (hns : ∀ n ∈ ns, Proper n)
    (h : ∀ front, front <+: ns → fs'.entry? (place ++ front) = fs.entry? (place ++ front)) :
    fs'.follow place ns = fs.follow place ns := by
  induction ns generalizing place with
  | nil => rfl
  | cons n ns ih =>
    obtain ⟨hn, hns⟩ := List.forall_mem_cons.mp hns
    have hhere : fs'.entry? place = fs.entry? place := by
      simpa using h [] List.nil_prefix
    have hrest : fs'.follow (place ++ [n]) ns = fs.follow (place ++ [n]) ns :=
      ih hns fun front hfront => by
        simpa using h (n :: front) (List.cons_prefix_cons.mpr ⟨rfl, hfront⟩)
    rw [follow_cons, follow_cons, hhere, if_neg hn.ne_here, if_neg hn.ne_up,
      if_neg (Nat.not_lt.mpr hn.size_le), if_neg hn.ne_here, if_neg hn.ne_up,
      if_neg (Nat.not_lt.mpr hn.size_le), hrest]

/-! ## Places of paths -/

/-- Where the names of a path are followed from. -/
def base (fs : Tree) (path : String) : List String :=
  if Path.isAbsolute path then [] else fs.workingDirectory

theorem eq_base_of_start {start : List String} (h : fs.start path = .ok start) :
    start = fs.base path := by
  rw [Tree.start] at h
  split at h
  · cases h
  · split at h
    · cases h
    · split at h
      · cases h
      · exact (Except.ok.inj h).symm

/-- A path leads nowhere only if it is empty. -/
theorem start_ne_notFound (h : path ≠ "") : fs.start path ≠ .error .notFound := by
  rw [Tree.start]
  rw [if_neg h]
  split
  · simp
  · split <;> simp

/-- The names of a path lead to a directory. -/
structure DirectoryAt (fs : Tree) (path : String) (place : List String) : Prop where
  follow_eq : fs.follow (fs.base path) (Path.names path) = .ok place
  entry_eq : fs.entry? place = some .directory

theorem Grows.directoryAt (h : Grows fs fs') (hplace : DirectoryAt fs path place) :
    DirectoryAt fs' path place where
  follow_eq := by
    have hbase : fs'.base path = fs.base path := by
      rw [base, base, h.workingDirectory_eq]
    rw [hbase]
    exact h.follow_eq hplace.follow_eq
  entry_eq := h.directory place hplace.entry_eq

theorem locate_eq_ok_iff : fs.locate path = .ok (place, e) ↔
    ∃ origin, fs.start path = .ok origin ∧
      fs.follow origin (Path.names path ++ if Path.endsInSlash path then ["."] else []) =
        .ok place ∧
      fs.entry? place = some e := by
  simp only [locate, bind, Except.bind]
  cases fs.start path with
  | error f => simp
  | ok origin =>
    simp only [Except.ok.injEq, exists_eq_left']
    cases fs.follow origin (Path.names path ++ if Path.endsInSlash path then ["."] else []) with
    | error f => simp
    | ok p =>
      simp only [Except.ok.injEq]
      cases hentry : fs.entry? p with
      | none =>
        simp only [reduceCtorEq, false_iff]
        rintro ⟨rfl, h⟩
        rw [hentry] at h
        cases h
      | some e' =>
        simp only [Except.ok.injEq, Prod.mk.injEq]
        constructor
        · rintro ⟨rfl, rfl⟩
          exact ⟨rfl, hentry⟩
        · rintro ⟨rfl, h⟩
          exact ⟨rfl, Option.some.inj (hentry.symm.trans h)⟩

/-- What a path that leads to a directory is. -/
theorem directoryAt_of_isDirectory (h : fs.isDirectory path = true) :
    ∃ place, fs.DirectoryAt path place := by
  rw [isDirectory] at h
  split at h
  next place hlocate =>
    obtain ⟨start, hstart, hfollow, hentry⟩ := locate_eq_ok_iff.mp hlocate
    rw [eq_base_of_start hstart] at hfollow
    refine ⟨place, ?_, hentry⟩
    split at hfollow
    · exact (follow_concat_here_iff.mp hfollow).1
    · rwa [List.append_nil] at hfollow
  · cases h

/-- What is found at a path depends on where its names lead and on what stands there. -/
theorem locate_congr (hwd : fs'.workingDirectory = fs.workingDirectory)
    (hslash : Path.endsInSlash path = false)
    (hfollow : fs'.follow (fs.base path) (Path.names path) =
      fs.follow (fs.base path) (Path.names path))
    (hentry : ∀ place, fs.follow (fs.base path) (Path.names path) = .ok place →
      fs'.entry? place = fs.entry? place) :
    fs'.locate path = fs.locate path := by
  have hstart : fs'.start path = fs.start path := by rw [start, start, hwd]
  simp only [locate, bind, Except.bind, hstart, hslash, Bool.false_eq_true, if_false,
    List.append_nil]
  cases h : fs.start path with
  | error f => rfl
  | ok origin =>
    rw [eq_base_of_start h]
    dsimp only
    rw [hfollow]
    cases hplace : fs.follow (fs.base path) (Path.names path) with
    | error f => rfl
    | ok place =>
      dsimp only
      rw [hentry place hplace]

/-- Text is read from a file to which the path leads. -/
theorem readText_eq_ok_iff {text : String} : fs.readText path = .ok text ↔
    ∃ place content, fs.locate path = .ok (place, .file content) ∧
      String.fromUTF8? content = some text := by
  simp only [readText, read, bind, Except.bind]
  cases hlocate : fs.locate path with
  | error f => simp
  | ok found =>
    obtain ⟨place, e⟩ := found
    cases e with
    | directory => simp
    | file content =>
      cases htext : String.fromUTF8? content with
      | none => simp [htext]
      | some t => simp [htext]

/-- What a path with a last name has to offer. -/
theorem slot_eq (hstart : fs.start path = .ok origin) (hnames : Path.names path = ns ++ [last]) :
    fs.slot path = (fs.follow origin (ns ++ ["."])).bind fun place =>
      if last = "." ∨ last = ".." then .ok (place, none)
      else if nameLimit < last.utf8ByteSize then .error .nameTooLong
      else .ok (place, some last) := by
  simp only [slot, bind, hstart, Except.bind, hnames, List.getLast?_concat, List.dropLast_concat]

/-- **Where something can be made**: under the last name of the path, in the directory to which the
names in front of it lead. -/
theorem slot_eq_some_iff : fs.slot path = .ok (place, some last) ↔
    ∃ origin ns, fs.start path = .ok origin ∧ Path.names path = ns ++ [last] ∧
      fs.follow origin ns = .ok place ∧ fs.entry? place = some .directory ∧ Proper last := by
  constructor
  · intro h
    have hnames : Path.names path ≠ [] := by
      intro hnil
      simp only [slot, bind, Except.bind, hnil, List.getLast?_nil] at h
      split at h <;> cases h
    obtain ⟨ns, m, hns⟩ := (List.eq_nil_or_concat' _).resolve_left hnames
    cases hstart : fs.start path with
    | error f =>
      simp only [slot, bind, Except.bind, hstart] at h
      cases h
    | ok origin =>
      rw [slot_eq hstart hns] at h
      cases hfollow : fs.follow origin (ns ++ ["."]) with
      | error f =>
        rw [hfollow] at h
        cases h
      | ok p =>
        rw [hfollow, Except.bind] at h
        obtain ⟨hp, hdirectory⟩ := follow_concat_here_iff.mp hfollow
        split at h
        · cases h
        next hdots =>
          split at h
          · cases h
          next hlimit =>
            rw [not_or] at hdots
            cases h
            exact ⟨origin, ns, rfl, hns, hp, hdirectory, hdots.1, hdots.2, Nat.not_lt.mp hlimit⟩
  · rintro ⟨origin, ns, hstart, hns, hp, hdirectory, hlast⟩
    rw [slot_eq hstart hns, follow_concat_here_iff.mpr ⟨hp, hdirectory⟩, Except.bind,
      if_neg (not_or.mpr ⟨hlast.ne_here, hlast.ne_up⟩), if_neg (Nat.not_lt.mpr hlast.size_le)]

/-! ## Making directories -/

/-- A tree to which directories were added, where nothing was before. -/
structure Furnished (fs fs' : Tree) : Prop where
  workingDirectory_eq : fs'.workingDirectory = fs.workingDirectory
  entry : ∀ p, fs'.entry? p = fs.entry? p ∨
    fs.entry? p = none ∧ fs'.entry? p = some .directory

theorem Furnished.refl (fs : Tree) : Furnished fs fs :=
  ⟨rfl, fun _ => Or.inl rfl⟩

theorem Furnished.trans (h : Furnished fs fs') (h' : Furnished fs' fs'') : Furnished fs fs'' where
  workingDirectory_eq := h'.workingDirectory_eq.trans h.workingDirectory_eq
  entry p := by
    rcases h'.entry p with hsame | ⟨hnone, hnew⟩
    · rw [hsame]
      exact h.entry p
    · rcases h.entry p with hsame | ⟨-, hdirectory⟩
      · exact Or.inr ⟨hsame ▸ hnone, hnew⟩
      · rw [hdirectory] at hnone
        cases hnone

theorem Furnished.grows (h : Furnished fs fs') : Grows fs fs' where
  workingDirectory_eq := h.workingDirectory_eq
  directory p hp := by
    rcases h.entry p with hsame | ⟨-, hnew⟩
    · rw [hsame, hp]
    · exact hnew
  file p content hp := by
    rcases h.entry p with hsame | ⟨hnone, -⟩
    · exact ⟨content, hsame.trans hp⟩
    · rw [hnone] at hp
      cases hp

/-- Its files are the same. -/
theorem Furnished.file_iff (h : Furnished fs fs') (p : List String) (content : ByteArray) :
    fs'.entry? p = some (.file content) ↔ fs.entry? p = some (.file content) := by
  rcases h.entry p with hsame | ⟨hnone, hnew⟩
  · rw [hsame]
  · simp [hnone, hnew]

/-- **Making one directory** puts it where the path leads, and nothing was there. -/
theorem of_makeDirectory (h : fs.makeDirectory path = .ok fs') :
    ∃ place last, fs.slot path = .ok (place, some last) ∧ fs.entry? (place ++ [last]) = none ∧
      fs' = fs.put (place ++ [last]) .directory := by
  simp only [makeDirectory, bind, Except.bind] at h
  split at h
  · cases h
  next slot hslot =>
    obtain ⟨place, last?⟩ := slot
    cases last? with
    | none => cases h
    | some last =>
      dsimp only at h
      split at h
      · cases h
      next hnone => exact ⟨place, last, hslot, hnone, (Except.ok.inj h).symm⟩

theorem furnished_put (hne : place ≠ []) (h : fs.entry? place = none) :
    Furnished fs (fs.put place .directory) where
  workingDirectory_eq := rfl
  entry p := by
    by_cases hp : p = place
    · rw [hp, entry?_put_self hne]
      exact Or.inr ⟨h, rfl⟩
    · exact Or.inl (entry?_put_of_ne hp)

theorem makeDirectory_furnished (h : fs.makeDirectory path = .ok fs') : Furnished fs fs' := by
  obtain ⟨place, last, -, hnone, rfl⟩ := of_makeDirectory h
  exact furnished_put (by simp) hnone

theorem makeDirectoriesUpTo_furnished (fuel : Nat) (fs : Tree) (path : String) :
    Furnished fs (fs.makeDirectoriesUpTo fuel path).1 := by
  induction fuel generalizing fs path with
  | zero => exact Furnished.refl fs
  | succ fuel ih =>
    rw [makeDirectoriesUpTo]
    split
    · exact Furnished.refl fs
    · split
      next hmade => exact makeDirectory_furnished hmade
      next =>
        split
        · exact Furnished.refl fs
        next parent _ =>
          have hparent := ih fs parent
          split
          next heq =>
            rw [heq] at hparent
            exact hparent
          next heq =>
            rw [heq] at hparent
            split
            next hmade => exact hparent.trans (makeDirectory_furnished hmade)
            next => split <;> exact hparent
      next => split <;> exact Furnished.refl fs

/-- **Making directories adds directories, and nothing else**, whether or not it succeeds. -/
theorem makeDirectories_furnished (fs : Tree) (path : String) :
    Furnished fs (fs.makeDirectories path).1 :=
  makeDirectoriesUpTo_furnished _ fs path

/-- Under a path that cannot be followed at all no directory is made. -/
theorem makeDirectories_of_start_error {f : Fault} (h : fs.start path = .error f) :
    (fs.makeDirectories path).1 = fs := by
  rw [makeDirectories, makeDirectoriesUpTo]
  split
  · rfl
  next hpath =>
    have hmake : fs.makeDirectory path = .error f := by
      simp only [makeDirectory, slot, bind, Except.bind, h]
    rw [hmake]
    have hf : f ≠ .notFound := by
      rintro rfl
      exact start_ne_notFound hpath h
    split
    next heq => cases heq
    next heq => exact absurd (Except.error.inj heq) hf
    next => split <;> rfl

/-- Where only the last directory can be missing, no other one is made. -/
theorem of_makeDirectories {made : Except Fault Unit} (h : fs.makeDirectories path = (fs', made))
    (hslot : fs.slot path = .ok (place, some last)) :
    fs' = fs ∨ fs.entry? (place ++ [last]) = none ∧ fs' = fs.put (place ++ [last]) .directory := by
  rw [makeDirectories, makeDirectoriesUpTo] at h
  split at h
  · exact Or.inl (Prod.mk.inj h).1.symm
  · cases hentry : fs.entry? (place ++ [last]) with
    | none =>
      have hmake : fs.makeDirectory path = .ok (fs.put (place ++ [last]) .directory) := by
        simp only [makeDirectory, bind, Except.bind, hslot, hentry]
      rw [hmake] at h
      exact Or.inr ⟨rfl, (Prod.mk.inj h).1.symm⟩
    | some e =>
      have hmake : fs.makeDirectory path = .error .exists := by
        simp only [makeDirectory, bind, Except.bind, hslot, hentry]
      rw [hmake] at h
      dsimp only at h
      left
      split at h <;> exact (Prod.mk.inj h).1.symm

/-! ## Writing files -/

/-- A tree in which a file was written at a place, and found at a path. -/
structure Wrote (fs fs' : Tree) (path : String) (place : List String) (content : ByteArray) :
    Prop where
  grows : Grows fs fs'
  locate_eq : fs'.locate path = .ok (place, .file content)
  /-- The file has a name of the path. -/
  name_mem : ∃ p last, place = p ++ [last] ∧ last ∈ Path.names path
  /-- All other files are what they were. -/
  file_iff : ∀ q, q ≠ place → ∀ other,
    fs'.entry? q = some (.file other) ↔ fs.entry? q = some (.file other)

/-- **Writing a file** puts it where the path leads. -/
theorem of_write (h : fs.write path content = .ok fs') :
    ∃ place last, fs.slot path = .ok (place, some last) ∧ Path.endsInSlash path = false ∧
      fs.entry? (place ++ [last]) ≠ some .directory ∧
      fs' = fs.put (place ++ [last]) (.file content) := by
  simp only [write, bind, Except.bind] at h
  split at h
  · cases h
  next slot hslot =>
    obtain ⟨place, last?⟩ := slot
    cases last? with
    | none => cases h
    | some last =>
      dsimp only at h
      split at h
      · cases h
      next hslash =>
        split at h
        · cases h
        next hentry =>
          exact ⟨place, last, hslot, by simpa using hslash, hentry, (Except.ok.inj h).symm⟩

theorem grows_put (hne : place ≠ []) (h : fs.entry? place ≠ some .directory) :
    Grows fs (fs.put place (.file content)) where
  workingDirectory_eq := rfl
  directory p hp := by
    have hpne : p ≠ place := by
      rintro rfl
      exact h hp
    rw [entry?_put_of_ne hpne, hp]
  file p other hp := by
    by_cases hpe : p = place
    · rw [hpe, entry?_put_self hne]
      exact ⟨content, rfl⟩
    · exact ⟨other, by rw [entry?_put_of_ne hpe, hp]⟩

/-- What is put at the place of a path is found there. -/
theorem wrote_put (hslot : fs.slot path = .ok (place, some last))
    (hslash : Path.endsInSlash path = false)
    (hentry : fs.entry? (place ++ [last]) ≠ some .directory) :
    Wrote fs (fs.put (place ++ [last]) (.file content)) path (place ++ [last]) content := by
  have hne : place ++ [last] ≠ [] := by simp
  have hgrows : Grows fs (fs.put (place ++ [last]) (.file content)) := grows_put hne hentry
  obtain ⟨origin, ns, hstart, hnames, hfollow, hdirectory, hlast⟩ := slot_eq_some_iff.mp hslot
  refine ⟨hgrows, ?_, ⟨place, last, rfl, by simp [hnames]⟩,
    fun q hq other => by rw [entry?_put_of_ne hq]⟩
  refine locate_eq_ok_iff.mpr ⟨origin, (hgrows.start_eq path).trans hstart, ?_, entry?_put_self hne⟩
  rw [if_neg (by simp [hslash]), List.append_nil, hnames, follow_append, hgrows.follow_eq hfollow]
  exact follow_cons_of_proper (hgrows.directory place hdirectory) hlast []

/-- **Where one file can be written, any other can**, and it is found there. -/
theorem exists_write (h : fs.write path content = .ok fs') (content' : ByteArray) :
    ∃ fs'' place, fs.write path content' = .ok fs'' ∧
      Wrote fs fs'' path place content' := by
  obtain ⟨place, last, hslot, hslash, hentry, -⟩ := of_write h
  refine ⟨fs.put (place ++ [last]) (.file content'), place ++ [last], ?_,
    wrote_put hslot hslash hentry⟩
  simp only [write, bind, Except.bind, hslot]
  exact if_neg (by simp [hslash])

/-- Directories may be added before a file is written. -/
theorem Furnished.wrote (h : Furnished fs fs') (h' : Wrote fs' fs'' path place content) :
    Wrote fs fs'' path place content where
  grows := h.grows.trans h'.grows
  locate_eq := h'.locate_eq
  name_mem := h'.name_mem
  file_iff q hq other := (h'.file_iff q hq other).trans (h.file_iff q other)

end Tree

end BytecodeParity.Files
