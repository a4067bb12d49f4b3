import BytecodeParity.Files.Path
import Mathlib.Data.List.Basic
/-!
# Names on a path

A path is text, and what a file system does with it depends on its names. Joining two paths appends
their names (`names_join`), whether or not the first ends in a slash, and a path made of names has
those names (`names_ofNames`). A name on a path never holds a slash itself (`plain_of_mem_names`),
so that a text with a slash in it is more than one name.

The parent of a path is made of its steps, which leave out most names for "here". Apart from these
they are the names of the path (`exists_steps_eq`), so that the parent of a path leads where the
names in front of the last one lead.
-/

namespace BytecodeParity.Path

/-- A text that can be a name: not empty, and without a slash. -/
structure Plain (n : String) : Prop where
  ne_empty : n ≠ ""
  notMem : '/' ∉ n.toList

instance (n : String) : Decidable (Plain n) :=
  decidable_of_iff (n ≠ "" ∧ '/' ∉ n.toList) ⟨fun h => ⟨h.1, h.2⟩, fun h => ⟨h.1, h.2⟩⟩

variable {a b base rest n : String} {ns : List String}

/-! ## Splitting -/

/-- What a text is split into does not hold what it was split at. -/
theorem notMem_of_mem_splitOn {t piece : List Char} (h : piece ∈ t.splitOn '/') :
    '/' ∉ piece := by
  induction t generalizing piece with
  | nil =>
    obtain rfl := List.mem_singleton.mp (List.splitOn_nil '/' ▸ h)
    exact List.not_mem_nil
  | cons c t ih =>
    rw [List.splitOn_cons_eq_if_modifyHead] at h
    split at h
    next =>
      rcases List.mem_cons.mp h with rfl | h
      · exact List.not_mem_nil
      · exact ih h
    next hc =>
      obtain ⟨first, others, hsplit⟩ := List.exists_cons_of_ne_nil (List.splitOn_ne_nil '/' t)
      rw [hsplit, List.modifyHead_cons] at h
      rcases List.mem_cons.mp h with rfl | h
      · have hfirst := ih (hsplit ▸ List.mem_cons_self)
        rw [List.mem_cons, not_or]
        exact ⟨fun hslash => hc (beq_iff_eq.mpr hslash.symm), hfirst⟩
      · exact ih (hsplit ▸ List.mem_cons_of_mem first h)

theorem plain_of_mem_names {path : String} (h : n ∈ names path) : Plain n := by
  obtain ⟨hmem, hne⟩ := List.mem_filter.mp h
  obtain ⟨piece, hpiece, rfl⟩ := List.mem_map.mp hmem
  refine ⟨by simpa using hne, ?_⟩
  rw [String.toList_ofList]
  exact notMem_of_mem_splitOn hpiece

@[simp] theorem names_empty : names "" = [] := by
  decide

/-- **A slash parts the names.** -/
theorem names_append_slash (a b : String) : names (a ++ "/" ++ b) = names a ++ names b := by
  have htext : (a ++ "/" ++ b).toList = a.toList ++ '/' :: b.toList := by simp
  rw [names, htext, List.splitOn_append_cons_self, List.map_append, List.filter_append, names,
    names]

theorem names_of_plain (h : Plain n) : names n = [n] := by
  rw [names, List.splitOn_eq_singleton h.notMem, List.map_singleton, String.ofList_toList,
    List.filter_cons_of_pos (by simpa using h.ne_empty), List.filter_nil]

/-! ## Joining -/

theorem exists_of_endsInSlash (h : endsInSlash base = true) : ∃ front, base = front ++ "/" := by
  have hlast : base.toList.getLast? = some '/' := by simpa [endsInSlash] using h
  obtain ⟨front, hfront⟩ := List.getLast?_eq_some_iff.mp hlast
  refine ⟨String.ofList front, String.toList_inj.mp ?_⟩
  simp [hfront]

/-- **Joining appends names.** -/
theorem names_join (hrest : isAbsolute rest = false) :
    names (join base rest) = names base ++ names rest := by
  rw [join, hrest, Bool.false_or]
  split
  next hbase => simp [eq_of_beq hbase]
  next =>
    split
    next hslash =>
      obtain ⟨front, rfl⟩ := exists_of_endsInSlash hslash
      have hfront : names (front ++ "/") = names front := by
        simpa using names_append_slash front ""
      rw [names_append_slash, hfront]
    next => exact names_append_slash base rest

theorem isAbsolute_of_plain (h : Plain n) : isAbsolute n = false := by
  have hhead : n.toList.head? ≠ some '/' := fun hs => h.notMem (List.mem_of_mem_head? hs)
  simpa [isAbsolute] using hhead

/-- A text in front of which another is put begins as that one. -/
theorem isAbsolute_append (ha : a ≠ "") (b : String) : isAbsolute (a ++ b) = isAbsolute a := by
  have hne : a.toList ≠ [] := fun hnil => ha (by simpa using hnil)
  rw [isAbsolute, isAbsolute, String.toList_append, List.head?_append_of_ne_nil _ hne]

theorem isAbsolute_join (hrest : isAbsolute rest = false) :
    isAbsolute (join base rest) = isAbsolute base := by
  rw [join, hrest, Bool.false_or]
  split
  next hbase =>
    rw [eq_of_beq hbase, hrest]
    rfl
  next hbase =>
    have hne : base ≠ "" := by simpa using hbase
    split
    · exact isAbsolute_append hne rest
    · rw [String.append_assoc, isAbsolute_append hne]

/-- A joined path begins as its first part. -/
theorem head?_join (hbase : base ≠ "") (hrest : isAbsolute rest = false) :
    (join base rest).toList.head? = base.toList.head? := by
  have hne : base.toList ≠ [] := fun hnil => hbase (by simpa using hnil)
  rw [join, hrest, Bool.false_or, if_neg (by simpa using hbase)]
  split
  · rw [String.toList_append, List.head?_append_of_ne_nil _ hne]
  · rw [String.append_assoc, String.toList_append, List.head?_append_of_ne_nil _ hne]

theorem endsInSlash_append (hb : b ≠ "") (a : String) : endsInSlash (a ++ b) = endsInSlash b := by
  have hne : b.toList ≠ [] := fun hnil => hb (by simpa using hnil)
  rw [endsInSlash, endsInSlash, String.toList_append, List.getLast?_append_of_ne_nil _ hne]

theorem endsInSlash_of_plain (h : Plain n) : endsInSlash n = false := by
  have hlast : n.toList.getLast? ≠ some '/' := fun hs => h.notMem (List.mem_of_mem_getLast? hs)
  simpa [endsInSlash] using hlast

/-- A joined path ends as its second part. -/
theorem endsInSlash_join (hrest : isAbsolute rest = false) (hne : rest ≠ "") :
    endsInSlash (join base rest) = endsInSlash rest := by
  rw [join, hrest, Bool.false_or]
  split
  · rfl
  · split
    · exact endsInSlash_append hne base
    · exact endsInSlash_append hne (base ++ "/")

/-! ## Paths made of names -/

theorem isAbsolute_ofNames (hns : ∀ m ∈ ns, Plain m) (absolute : Bool) :
    isAbsolute (ofNames absolute ns) = absolute := by
  cases absolute with
  | true =>
    rw [ofNames, if_pos rfl, isAbsolute_append (by decide)]
    rfl
  | false =>
    rw [ofNames, if_neg Bool.false_ne_true, String.empty_append]
    cases ns with
    | nil => rfl
    | cons m ns =>
      obtain ⟨hm, -⟩ := List.forall_mem_cons.mp hns
      cases ns with
      | nil => rw [String.intercalate_singleton, isAbsolute_of_plain hm]
      | cons m' ns =>
        rw [String.intercalate_cons_cons, String.append_assoc, isAbsolute_append hm.ne_empty,
          isAbsolute_of_plain hm]

theorem names_intercalate (hns : ∀ m ∈ ns, Plain m) (hne : ns ≠ []) :
    names ("/".intercalate ns) = ns := by
  have hslash : "/".toList = ['/'] := rfl
  have hpieces : ∀ piece ∈ ns.map String.toList, '/' ∉ piece := by
    intro piece hpiece
    obtain ⟨m, hm, rfl⟩ := List.mem_map.mp hpiece
    exact (hns m hm).notMem
  have hback : (ns.map String.toList).map String.ofList = ns := by
    rw [List.map_map]
    exact List.map_id'' (fun m => String.ofList_toList) ns
  rw [names, String.toList_intercalate, hslash,
    List.splitOn_intercalate '/' hpieces (by simpa using hne), hback, List.filter_eq_self]
  intro m hm
  simpa using (hns m hm).ne_empty

/-- **A path made of names has those names.** -/
theorem names_ofNames (hns : ∀ m ∈ ns, Plain m) (hne : ns ≠ []) (absolute : Bool) :
    names (ofNames absolute ns) = ns := by
  cases absolute with
  | true =>
    rw [ofNames, if_pos rfl]
    have h := names_append_slash "" ("/".intercalate ns)
    rw [String.empty_append, names_empty, List.nil_append] at h
    rw [h, names_intercalate hns hne]
  | false => rw [ofNames, if_neg Bool.false_ne_true, String.empty_append, names_intercalate hns hne]

/-! ## Steps and parents -/

/-- The names on a path that are not names for "here". -/
def moves (ns : List String) : List String := ns.filter fun n => n != "."

theorem moves_append (ns ms : List String) : moves (ns ++ ms) = moves ns ++ moves ms :=
  List.filter_append ns ms

theorem moves_eq_self (h : "." ∉ ns) : moves ns = ns := by
  rw [moves, List.filter_eq_self]
  rintro m hm
  rw [bne_iff_ne]
  rintro rfl
  exact h hm

/-- **Steps are names, but for names for "here".** What stands behind all of these stays. -/
theorem exists_steps_eq {path : String} {tail : List String} (hnames : names path = ns ++ tail)
    (htail : "." ∉ tail) :
    ∃ front, steps path = front ++ tail ∧ moves front = moves ns ∧ ∀ n ∈ front, Plain n := by
  have hplain : ∀ n ∈ ns, Plain n := fun n hn =>
    plain_of_mem_names (hnames ▸ List.mem_append_left tail hn)
  have hself := moves_eq_self htail
  rw [moves] at hself
  cases ns with
  | nil =>
    refine ⟨[], ?_, rfl, List.forall_mem_nil _⟩
    rw [List.nil_append] at hnames ⊢
    cases tail with
    | nil => rw [steps, hnames]
    | cons t tail =>
      rw [List.mem_cons, not_or] at htail
      rw [steps, hnames]
      have ht : (t == ".") = false := beq_eq_false_iff_ne.mpr (Ne.symm htail.1)
      have hrest := moves_eq_self htail.2
      rw [moves] at hrest
      simp only [ht, Bool.false_and, Bool.false_eq_true, if_false, hrest]
  | cons d ns =>
    obtain ⟨hd, hns⟩ := List.forall_mem_cons.mp hplain
    have hmoves : ∀ n ∈ moves ns, Plain n := fun n hn => hns n (List.mem_of_mem_filter hn)
    have htwice : moves (moves ns) = moves ns := by
      rw [moves, moves, List.filter_filter]
      simp
    rw [List.cons_append] at hnames
    rw [steps, hnames]
    dsimp only
    rw [List.filter_append, hself]
    by_cases hhere : (d == "." && isAbsolute path) = true
    · refine ⟨moves ns, by rw [if_pos hhere]; rfl, ?_, hmoves⟩
      have hdot : d = "." := eq_of_beq (Bool.and_eq_true_iff.mp hhere).1
      rw [htwice, hdot]
      rfl
    · refine ⟨d :: moves ns, by rw [if_neg hhere]; rfl, ?_, ?_⟩
      · calc moves (d :: moves ns) = moves [d] ++ moves (moves ns) := moves_append [d] (moves ns)
          _ = moves [d] ++ moves ns := by rw [htwice]
          _ = moves (d :: ns) := (moves_append [d] ns).symm
      · exact List.forall_mem_cons.mpr ⟨hd, hmoves⟩

/-- The parent of a path with two names at its end that both lead on. -/
theorem exists_parent?_eq {path last : String} (hnames : names path = ns ++ [n, last])
    (hn : n ≠ ".") (hlast : last ≠ ".") :
    ∃ front, parent? path = some (ofNames (isAbsolute path) (front ++ [n])) ∧
      moves front = moves ns ∧ ∀ m ∈ front ++ [n], Plain m := by
  obtain ⟨front, hsteps, hmoves, hplain⟩ :=
    exists_steps_eq hnames (by simp [hn.symm, hlast.symm])
  have hmem : n ∈ names path := by
    rw [hnames]
    simp
  refine ⟨front, ?_, hmoves, ?_⟩
  · have hsteps : steps path = (front ++ [n]) ++ [last] := by simpa using hsteps
    rw [parent?, hsteps]
    split
    next hnil => simp at hnil
    next => rw [List.dropLast_concat]
  · intro m hm
    rcases List.mem_append.mp hm with hm | hm
    · exact hplain m hm
    · rw [List.mem_singleton.mp hm]
      exact plain_of_mem_names hmem

end BytecodeParity.Path
