import BytecodeParity.Abi.Catalog
import BytecodeParity.Proofs.Files.Tree
import BytecodeParity.Proofs.Json.Record
import BytecodeParity.Proofs.Outcome
/-!
# Each contract once

Maps are kept in ascending order of their keys (`OrderedMap.Ascending`), whatever is inserted, so
that no key stands in them twice. The contracts of an address book are read into such a map
(`AddressBook.ascending_of_ofDirectory`). **Of the contracts to look up, each is looked up once, and
they are those of the book and the additional ones** (`Abi.nodup_contractsToLookUp`,
`Abi.mem_contractsToLookUp`).
-/

namespace BytecodeParity

namespace OrderedMap

variable {κ α : Type} [LT κ] [DecidableLT κ] [DecidableEq κ] {k j : κ} {a : α} {m : OrderedMap κ α}

/-- The keys ascend. -/
def Ascending (m : OrderedMap κ α) : Prop := (keys m).Pairwise (· < ·)

theorem mem_keys_insert : j ∈ keys (insert k a m) ↔ j = k ∨ j ∈ keys m := by
  induction m with
  | nil => simp [insert, keys]
  | cons e m ih =>
    obtain ⟨i, b⟩ := e
    have hcons (m : OrderedMap κ α) : j ∈ keys ((i, b) :: m) ↔ j = i ∨ j ∈ keys m := List.mem_cons
    unfold insert
    split
    · next hk =>
      rw [hk, hcons]
      exact (hcons m).trans or_self_left.symm
    · split
      · exact List.mem_cons
      · rw [hcons, hcons, ih, or_left_comm]

/-- **Inserting keeps the order.** -/
theorem Ascending.insert [Trans (· < · : κ → κ → Prop) (· < ·) (· < ·)]
    [Std.Trichotomous (· < · : κ → κ → Prop)] (h : Ascending m) : Ascending (insert k a m) := by
  induction m with
  | nil => exact List.pairwise_singleton _ k
  | cons e m ih =>
    obtain ⟨i, b⟩ := e
    obtain ⟨hi, hm⟩ := List.pairwise_cons.mp h
    unfold OrderedMap.insert
    split
    · next hk => exact List.pairwise_cons.mpr ⟨hk ▸ hi, hm⟩
    · next hne =>
      split
      · next hlt =>
        refine List.pairwise_cons.mpr ⟨?_, h⟩
        exact List.forall_mem_cons.mpr ⟨hlt, fun j hj => Trans.trans hlt (hi j hj)⟩
      · next hnlt =>
        have hlt : i < k := by
          by_contra hik
          exact hne (Std.Trichotomous.trichotomous k i hnlt hik)
        refine List.pairwise_cons.mpr ⟨fun j hj => ?_, ih hm⟩
        rcases mem_keys_insert.mp hj with rfl | hj
        · exact hlt
        · exact hi j hj

omit [DecidableLT κ] [DecidableEq κ] in
/-- No key stands twice in an order. -/
theorem Ascending.nodup [Std.Irrefl (· < · : κ → κ → Prop)] (h : Ascending m) : (keys m).Nodup :=
  h.imp fun hlt => by
    rintro rfl
    exact Std.Irrefl.irrefl _ hlt

/-- A key above all others is set behind them. -/
theorem insert_of_forall_lt [Std.Irrefl (· < · : κ → κ → Prop)]
    [Std.Asymm (· < · : κ → κ → Prop)] (h : ∀ j ∈ keys m, j < k) : insert k a m = m ++ [(k, a)] := by
  induction m with
  | nil => rfl
  | cons e m ih =>
    obtain ⟨i, b⟩ := e
    obtain ⟨hi, hm⟩ := List.forall_mem_cons.mp h
    have hne : k ≠ i := by
      rintro rfl
      exact Std.Irrefl.irrefl _ hi
    rw [insert, if_neg hne, if_neg (Std.Asymm.asymm _ _ hi), ih hm, List.cons_append]

/-- **A map in order is the map of its entries.** -/
theorem ofList_eq_self [Std.Irrefl (· < · : κ → κ → Prop)] [Std.Asymm (· < · : κ → κ → Prop)]
    (h : Ascending m) : ofList m = m := by
  suffices hbehind : ∀ front : OrderedMap κ α, Ascending (front ++ m) →
      m.foldl (fun m e => insert e.1 e.2 m) front = front ++ m from hbehind [] h
  clear h
  induction m with
  | nil => simp
  | cons e m ih =>
    intro front h
    have hfront : ∀ j ∈ keys front, j < e.1 := by
      intro j hj
      rw [Ascending, keys, List.map_append] at h
      exact (List.pairwise_append.mp h).2.2 j hj e.1 (by simp)
    have happend : front ++ [e] ++ m = front ++ e :: m := by simp
    rw [List.foldl_cons, insert_of_forall_lt hfront, ih _ (happend ▸ h), happend]

end OrderedMap

namespace Json.Reader

variable {κ α : Type} [LT κ] [DecidableLT κ] [DecidableEq κ] {name : Reader κ} {value : Reader α}

/-! ## Objects of members that are alike -/

theorem gives_membersFrom {P : OrderedMap κ α → Prop} {Q : κ → Prop} (hname : Gives name Q)
    (hinsert : ∀ m k a, P m → Q k → P (OrderedMap.insert k a m)) (fuel : Nat) (first : Bool)
    {read : OrderedMap κ α} (hread : P read) :
    Gives (membersFrom name value fuel first read) P := by
  induction fuel generalizing first read with
  | zero => exact Gives.throw
  | succ fuel ih =>
    refine Gives.bind fun more => ?_
    split
    · refine Gives.bind_of hname fun k hk => Gives.bind fun _ => Gives.bind fun a => ?_
      exact ih false (hinsert read k a hread hk)
    · exact Gives.bind fun _ => Gives.pure hread

/-- What holds of the empty map, and still holds when a name that was read is inserted, holds of all
objects. -/
theorem gives_map_of {P : OrderedMap κ α → Prop} {Q : κ → Prop} (hname : Gives name Q)
    (hnil : P []) (hinsert : ∀ m k a, P m → Q k → P (OrderedMap.insert k a m)) (depth : Nat) :
    Gives (map depth name value) P := by
  refine Gives.bind fun c => ?_
  split
  · split
    · exact Gives.throw
    · exact Gives.bind fun _ => Gives.bind fun n =>
        gives_membersFrom hname hinsert (n + 1) true hnil
  · exact fun _ _ _ h => absurd h (unexpected_ne_ok _)

theorem gives_map [Trans (· < · : κ → κ → Prop) (· < ·) (· < ·)]
    [Std.Trichotomous (· < · : κ → κ → Prop)] (depth : Nat) :
    Gives (map depth name value) OrderedMap.Ascending :=
  gives_map_of (P := OrderedMap.Ascending) (Q := fun _ => True) (fun _ _ _ _ => trivial)
    List.Pairwise.nil (fun _ _ _ hm _ => hm.insert) depth

/-- Whatever holds of the names that are read holds of all keys. -/
theorem gives_forall_keys {Q : κ → Prop} (hname : Gives name Q) (depth : Nat) :
    Gives (map depth name value) fun m => ∀ k ∈ OrderedMap.keys m, Q k := by
  refine gives_map_of hname (by simp [OrderedMap.keys]) (fun m k a hm hk j hj => ?_) depth
  rcases OrderedMap.mem_keys_insert.mp hj with rfl | hj
  · exact hk
  · exact hm j hj

theorem advances_map (depth : Nat) (hname : Advances name) (hvalue : Advances value) :
    Advances (map depth name value) := by
  refine advances_peekSolid.bind fun c => ?_
  split
  · split
    · exact Advances.throw
    · exact advances_drop.bind fun _ => advances_remaining.bind fun n =>
        advances_membersFrom hname hvalue (n + 1) true []
  · exact advances_unexpected _

end Json.Reader

namespace AddressBook

open Json.Reader

theorem advances_fields : ∀ f ∈ layout.fields, ∀ b, Advances (f.read b) := by
  have htext := advances_optional (advances_text "a string")
  simp only [layout, List.forall_mem_cons]
  exact ⟨fun b => (advances_optional advances_nat64).bind fun _ => .pure,
    fun b => htext.bind fun _ => .pure, fun b => htext.bind fun _ => .pure,
    fun b => htext.bind fun _ => .pure,
    fun b => (advances_map _ advances_string (advances_text _)).bind fun _ => .pure,
    fun b => htext.bind fun _ => .pure, by simp⟩

/-- Only one field reads contracts, and it reads them in order. -/
theorem fields_ascending : ∀ f ∈ layout.fields, ∀ b : AddressBook, b.contracts.Ascending →
    Gives (f.read b) fun b => b.contracts.Ascending := by
  simp only [layout, List.forall_mem_cons]
  exact ⟨fun b hb => .bind fun _ => .pure hb, fun b hb => .bind fun _ => .pure hb,
    fun b hb => .bind fun _ => .pure hb, fun b hb => .bind fun _ => .pure hb,
    fun b _ => .bind_of (gives_map _) fun _ hcontracts => .pure hcontracts,
    fun b hb => .bind fun _ => .pure hb, by simp⟩

variable {fs : Files.Tree} {book : AddressBook}

theorem ascending_of_parse {text : String} (h : parse text = .ok book) :
    book.contracts.Ascending :=
  Layout.forall_of_parse (P := fun b => b.contracts.Ascending) advances_fields
    List.Pairwise.nil fields_ascending (mapError_eq_ok_iff.mp h)

/-- An address book that is read comes from a file. -/
theorem of_ofFile {path : String} (h : ofFile fs path = .ok book) :
    ∃ place content text, fs.locate path = .ok (place, .file content) ∧
      String.fromUTF8? content = some text ∧ parse text = .ok book := by
  simp only [ofFile, bind, Except.bind] at h
  split at h
  · cases h
  · cases hread : fs.readText path with
    | error e =>
      rw [hread] at h
      cases h
    | ok text =>
      rw [hread] at h
      obtain ⟨place, content, hplace, htext⟩ := Files.Tree.readText_eq_ok_iff.mp hread
      exact ⟨place, content, text, hplace, htext, h⟩

theorem ascending_of_ofDirectory {directory : String} {network : Network}
    (h : ofDirectory fs directory network = .ok book) : book.contracts.Ascending := by
  obtain ⟨_, _, _, -, -, hparse⟩ := of_ofFile h
  exact ascending_of_parse hparse

end AddressBook

namespace Abi

variable {book : AddressBook} {name : String}

/-! ## The contracts to look up -/

/-- **No contract is looked up twice.** -/
theorem nodup_contractsToLookUp (h : book.contracts.Ascending) : (contractsToLookUp book).Nodup := by
  have hadditional : additional.Nodup := by decide
  refine List.nodup_append.mpr ⟨h.nodup, hadditional.filter _, fun n hn m hm => ?_⟩
  rintro rfl
  obtain ⟨-, hnew⟩ := List.mem_filter.mp hm
  simp [hn] at hnew

/-- **Those of the book are looked up, and the additional ones.** -/
theorem mem_contractsToLookUp :
    name ∈ contractsToLookUp book ↔ name ∈ book.contracts.keys ∨ name ∈ additional := by
  rw [contractsToLookUp, List.mem_append, List.mem_filter]
  by_cases h : name ∈ book.contracts.keys <;> simp [h]

end Abi

end BytecodeParity
