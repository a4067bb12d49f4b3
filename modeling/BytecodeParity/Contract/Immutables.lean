import BytecodeParity.Contract.Catalog
import BytecodeParity.Hex
import BytecodeParity.OrderedMap
/-!
# Immutable values

Constructor arguments end up inside a contract's code, so two deployments of one source differ
there. A registry lists the values that each contract of a deployment embeds, in constructor
order. That of the canonical deployment is fixed; that of a fork is read off the addresses of its
contracts. No registry holds an empty value.
-/

namespace BytecodeParity

/-- A constructor argument of a fork's contract. -/
inductive Role where
  | factory
  | wrappedEther
  | positionManager
  | descriptorProxy
  | descriptorLibrary
  | permit
  | poolInitCodeHash
  | zeroPairInitCodeHash
  deriving DecidableEq, Repr

namespace Role

/-- Every role. -/
def all : List Role :=
  [factory, wrappedEther, positionManager, descriptorProxy, descriptorLibrary, permit,
    poolInitCodeHash, zeroPairInitCodeHash]

/-- The entry of the address file that fills the role. The two hashes have none. -/
def addressKey? : Role → Option String
  | factory => some "UniswapV3Factory"
  | wrappedEther => some "WETH9"
  | positionManager => some "NonfungiblePositionManager"
  | descriptorProxy => some "DescriptorProxy"
  | descriptorLibrary => some "NonfungibleTokenDescriptorLibrary"
  | permit => some "Permit2"
  | poolInitCodeHash => none
  | zeroPairInitCodeHash => none

/-- The value of a role that the address file leaves open. -/
def default? : Role → Option Text
  | wrappedEther => some WellKnown.rollupWrappedEther
  | permit => some WellKnown.permit
  | zeroPairInitCodeHash => some WellKnown.zeroPairInitCodeHash
  | _ => none

/-- The value of a role in a fork with these contract addresses and this pool init code hash. An
address counts as given when something is left of it in raw form. -/
def value? (contracts : OrderedMap String String) (poolHash : Text) (role : Role) : Option Text :=
  if role = poolInitCodeHash then some (Hex.raw poolHash)
  else
    let given := do
      let key ← role.addressKey?
      let address ← OrderedMap.find? key contracts
      let value := Hex.raw address.toList
      if value.isEmpty then none else some value
    given <|> role.default?

end Role

namespace Contract

/-- The roles that a fork's contract embeds, in constructor order. -/
def roles : Contract → List Role
  | factory => [.factory]
  | positionManager => [.factory, .wrappedEther, .descriptorProxy, .poolInitCodeHash]
  | staker => [.factory, .positionManager, .poolInitCodeHash]
  | quoter => [.factory, .wrappedEther, .poolInitCodeHash]
  | swapRouter => [.factory, .wrappedEther, .positionManager, .poolInitCodeHash]
  | positionDescriptor => [.wrappedEther, .descriptorLibrary]
  | migrator => [.factory, .wrappedEther, .positionManager, .poolInitCodeHash]
  | universalRouter =>
    [.permit, .wrappedEther, .factory, .positionManager, .poolInitCodeHash, .zeroPairInitCodeHash]
  | multicall => []
  | proxyAdmin => []
  | tickLens => []

/-- The values that the canonical contract embeds. -/
def canonicalValues : Contract → List Text
  | factory => [WellKnown.factory]
  | positionManager =>
    [WellKnown.factory, WellKnown.wrappedEther, WellKnown.tokenDescriptor,
      WellKnown.canonicalPoolInitCodeHash]
  | staker =>
    [WellKnown.factory, WellKnown.positionManager, WellKnown.canonicalPoolInitCodeHash]
  | quoter =>
    [WellKnown.factory, WellKnown.wrappedEther, WellKnown.canonicalPoolInitCodeHash]
  | swapRouter =>
    [WellKnown.factory, WellKnown.wrappedEther, WellKnown.pairFactory, WellKnown.positionManager,
      WellKnown.canonicalPoolInitCodeHash]
  | positionDescriptor => [WellKnown.wrappedEther, WellKnown.descriptorLibrary]
  | migrator =>
    [WellKnown.factory, WellKnown.wrappedEther, WellKnown.positionManager,
      WellKnown.canonicalPoolInitCodeHash]
  | universalRouter =>
    [WellKnown.permit, WellKnown.wrappedEther, WellKnown.factory, WellKnown.positionManager,
      WellKnown.pairFactory, WellKnown.poolManager, WellKnown.singletonPositionManager,
      WellKnown.canonicalPoolInitCodeHash, WellKnown.canonicalPairInitCodeHash]
  | multicall => []
  | proxyAdmin => []
  | tickLens => []

end Contract

/-- The values that each contract of a deployment embeds, by contract name. -/
structure Registry where
  /-- The lists of values, by ascending name. -/
  entries : OrderedMap String (List Text)
  /-- Nothing to mask is empty. -/
  nonempty : ∀ e ∈ entries, ∀ v ∈ e.2, v ≠ []

namespace Registry

/-- Values as a registry stores them: in raw form, without those of which nothing is left. -/
def storedForm (values : List Text) : List Text :=
  (values.map Hex.raw).filter fun v => !v.isEmpty

theorem ne_nil_of_mem_storedForm {values : List Text} {v : Text} (h : v ∈ storedForm values) :
    v ≠ [] := by
  simp only [storedForm, List.mem_filter, Bool.not_eq_true', List.isEmpty_eq_false_iff] at h
  exact h.2

/-- The registry without entries. -/
def empty : Registry := ⟨[], by simp⟩

/-- Sets the values of a contract. -/
def insert (name : String) (values : List Text) (r : Registry) : Registry where
  entries := OrderedMap.insert name (storedForm values) r.entries
  nonempty := by
    intro e he v hv
    have : e ∈ r.entries ∨ e = (name, storedForm values) := by
      clear hv v
      have key : ∀ m : OrderedMap String (List Text),
          e ∈ OrderedMap.insert name (storedForm values) m →
          e ∈ m ∨ e = (name, storedForm values) := by
        intro m
        induction m with
        | nil => intro h; right; simpa [OrderedMap.insert] using h
        | cons x m ih =>
          obtain ⟨j, b⟩ := x
          unfold OrderedMap.insert
          intro h
          split at h
          · rcases List.mem_cons.1 h with h | h
            · exact .inr h
            · exact .inl (List.mem_cons_of_mem _ h)
          · split at h
            · rcases List.mem_cons.1 h with h | h
              · exact .inr h
              · exact .inl h
            · rcases List.mem_cons.1 h with h | h
              · exact .inl (h ▸ List.mem_cons_self)
              · exact (ih h).imp_left (List.mem_cons_of_mem _)
      exact key _ he
    rcases this with h | rfl
    · exact r.nonempty e h v hv
    · exact ne_nil_of_mem_storedForm hv

/-- The registry of the canonical deployment. It lists every canonical contract. -/
def canonical : Registry :=
  Contract.all.foldl (fun r c => r.insert c.name c.canonicalValues) empty

/-- The registry of a fork with these contract addresses and this pool init code hash. It lists
the contracts that embed something. -/
def ofDeployment (contracts : OrderedMap String String) (poolHash : Text) : Registry :=
  (Contract.all.filter fun c => !c.roles.isEmpty).foldl
    (fun r c => r.insert c.name (c.roles.filterMap (Role.value? contracts poolHash))) empty

/-- The values of a contract, none if the registry does not list it. -/
def get (r : Registry) (name : String) : List Text := (OrderedMap.find? name r.entries).getD []

/-- The contracts listed, by ascending name. -/
def names (r : Registry) : List String := OrderedMap.keys r.entries

end Registry

end BytecodeParity
