/-!
# Maps in key order

A finite map as the list of its entries by ascending key. Address files, registries and JSON
objects are read into such maps, so whatever walks them meets the keys in one order, whichever
order the text had, and the last of several values for a key is the one that stays.
-/

namespace BytecodeParity

/-- A finite map, listed by ascending key. -/
abbrev OrderedMap (κ α : Type) := List (κ × α)

namespace OrderedMap

variable {κ α : Type} [LT κ] [DecidableLT κ] [DecidableEq κ]

/-- Sets the value of a key at its place in the order. A value that the key had is replaced. -/
def insert (k : κ) (a : α) : OrderedMap κ α → OrderedMap κ α
  | [] => [(k, a)]
  | (j, b) :: m =>
    if k = j then (k, a) :: m
    else if k < j then (k, a) :: (j, b) :: m
    else (j, b) :: insert k a m

omit [LT κ] [DecidableLT κ] in
/-- The value of a key. -/
def find? (k : κ) : OrderedMap κ α → Option α
  | [] => none
  | (j, b) :: m => if k = j then some b else find? k m

/-- The map that arises when the entries are set one after another. -/
def ofList (entries : List (κ × α)) : OrderedMap κ α :=
  entries.foldl (fun m e => insert e.1 e.2 m) []

omit [LT κ] [DecidableLT κ] [DecidableEq κ] in
/-- The keys, ascending. -/
def keys (m : OrderedMap κ α) : List κ := m.map Prod.fst

omit [LT κ] [DecidableLT κ] in
@[simp] theorem find?_nil (k : κ) : find? k ([] : OrderedMap κ α) = none := rfl

omit [LT κ] [DecidableLT κ] in
/-- What is found under a key is an entry. -/
theorem mem_of_find? {k : κ} {a : α} {m : OrderedMap κ α} (h : find? k m = some a) :
    (k, a) ∈ m := by
  induction m with
  | nil => cases h
  | cons e m ih =>
    obtain ⟨j, b⟩ := e
    unfold find? at h
    split at h
    · next hk =>
      obtain rfl := Option.some.inj h
      rw [hk]
      exact List.mem_cons_self
    · exact List.mem_cons_of_mem _ (ih h)

@[simp] theorem find?_insert_self (k : κ) (a : α) (m : OrderedMap κ α) :
    find? k (insert k a m) = some a := by
  induction m with
  | nil => simp [insert, find?]
  | cons e m ih =>
    obtain ⟨j, b⟩ := e
    unfold insert
    split
    · simp [find?]
    · split
      · simp [find?]
      · simp [find?, *]

theorem find?_insert_of_ne {k l : κ} (h : l ≠ k) (a : α) (m : OrderedMap κ α) :
    find? l (insert k a m) = find? l m := by
  induction m with
  | nil => simp [insert, find?, h]
  | cons e m ih =>
    obtain ⟨j, b⟩ := e
    unfold insert
    split
    · next hk => subst hk; simp [find?, h]
    · split
      · simp [find?, h]
      · simp [find?, ih]

end OrderedMap

end BytecodeParity
