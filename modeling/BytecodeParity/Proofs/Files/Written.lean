import BytecodeParity.Proofs.Files.Tree
/-!
# Files written one after another

Contents are written at paths, and paths may lead to one place. **What a place holds in the end is
the last content whose path leads there**, and places to which no path leads hold what they held
(`Written.file_iff`). Where a path leads is asked of the tree in the end: a tree into which files
were written has grown, so that each path leads where it led when it was written
(`Written.locate`).
-/

namespace BytecodeParity.Files

namespace Tree

variable {fs fs' fs'' : Tree} {path : String} {place : List String}
  {ws ws' : List (String × ByteArray)}

/-- The place to which a path leads. -/
def place? (fs : Tree) (path : String) : Option (List String) :=
  (fs.locate path).toOption.map Prod.fst

/-- A tree into which contents were written at paths, one after the other. -/
inductive Written : Tree → List (String × ByteArray) → Tree → Prop
  | nil {fs : Tree} : Written fs [] fs
  | cons {fs fs₁ fs' : Tree} {path : String} {place : List String} {content : ByteArray}
      {writes : List (String × ByteArray)} :
      Wrote fs fs₁ path place content → Written fs₁ writes fs' →
        Written fs ((path, content) :: writes) fs'

/-- The last content that was written where its path leads to a place. -/
def lastWrite (fs : Tree) (place : List String) : List (String × ByteArray) → Option ByteArray
  | [] => none
  | (path, content) :: writes =>
    lastWrite fs place writes <|> if place? fs path = some place then some content else none

theorem mem_of_lastWrite {content : ByteArray} (h : lastWrite fs place ws = some content) :
    ∃ path, (path, content) ∈ ws ∧ place? fs path = some place := by
  induction ws with
  | nil => cases h
  | cons w ws ih =>
    obtain ⟨path, written⟩ := w
    rw [lastWrite] at h
    cases hlast : lastWrite fs place ws with
    | some later =>
      rw [hlast] at h
      obtain ⟨path', hmem, hplace⟩ := ih (hlast.trans h)
      exact ⟨path', List.mem_cons_of_mem _ hmem, hplace⟩
    | none =>
      rw [hlast] at h
      split at h
      next hplace =>
        obtain rfl := Option.some.inj h
        exact ⟨path, List.mem_cons_self, hplace⟩
      next => cases h

/-- Nothing was written to a place to which no path leads. -/
theorem lastWrite_eq_none_iff :
    lastWrite fs place ws = none ↔ ∀ w ∈ ws, place? fs w.1 ≠ some place := by
  induction ws with
  | nil => simp [lastWrite]
  | cons w ws ih =>
    obtain ⟨path, written⟩ := w
    rw [lastWrite, List.forall_mem_cons, ← ih]
    cases lastWrite fs place ws <;> simp

theorem Written.grows (h : Written fs ws fs') : Grows fs fs' := by
  induction h with
  | nil => exact Grows.refl _
  | cons hwrote _ ih => exact hwrote.grows.trans ih

/-- A path to a file leads there in all that comes later. -/
theorem locate_of_grows {content : ByteArray} (h : Grows fs fs')
    (hlocate : fs.locate path = .ok (place, .file content)) :
    ∃ content', fs'.locate path = .ok (place, .file content') := by
  obtain ⟨start, hstart, hfollow, hentry⟩ := locate_eq_ok_iff.mp hlocate
  obtain ⟨content', hentry'⟩ := h.file place content hentry
  exact ⟨content', locate_eq_ok_iff.mpr
    ⟨start, (h.start_eq path).trans hstart, h.follow_eq hfollow, hentry'⟩⟩

/-- **Every path that was written leads to a file**, which has a name of the path. -/
theorem Written.locate (h : Written fs ws fs') :
    ∀ w ∈ ws, ∃ p last content, last ∈ Path.names w.1 ∧
      fs'.locate w.1 = .ok (p ++ [last], .file content) := by
  induction h with
  | nil => simp
  | cons hwrote hrest ih =>
    refine List.forall_mem_cons.mpr ⟨?_, ih⟩
    obtain ⟨p, last, rfl, hlast⟩ := hwrote.name_mem
    obtain ⟨content', hlocate⟩ := locate_of_grows hrest.grows hwrote.locate_eq
    exact ⟨p, last, content', hlast, hlocate⟩

/-- **The files of a tree into which contents were written**: where one was written stands the last
one, and all other files are what they were. -/
theorem Written.file_iff (h : Written fs ws fs') (q : List String) (content : ByteArray) :
    fs'.entry? q = some (.file content) ↔
      match lastWrite fs' q ws with
      | some written => content = written
      | none => fs.entry? q = some (.file content) := by
  induction h with
  | nil => rfl
  | @cons fs fs₁ fs' path place written writes hwrote hrest ih =>
    obtain ⟨content', hlocate⟩ := locate_of_grows hrest.grows hwrote.locate_eq
    have hplace : place? fs' path = some place := by
      rw [place?, hlocate]
      rfl
    rw [lastWrite, hplace]
    cases hlast : lastWrite fs' q writes with
    | some later =>
      rw [hlast] at ih
      exact ih
    | none =>
      rw [hlast] at ih
      by_cases hq : place = q
      · subst hq
        obtain ⟨_, -, -, hentry⟩ := locate_eq_ok_iff.mp hwrote.locate_eq
        rw [if_pos rfl]
        refine ih.trans ?_
        rw [hentry]
        simp [eq_comm]
      · rw [if_neg (by simpa using hq)]
        exact ih.trans (hwrote.file_iff q (Ne.symm hq) content)

theorem Written.append (h : Written fs ws fs') (h' : Written fs' ws' fs'') :
    Written fs (ws ++ ws') fs'' := by
  induction h with
  | nil => exact h'
  | cons hwrote _ ih => exact .cons hwrote (ih h')

end Tree

end BytecodeParity.Files
