import BytecodeParity.Code.Pair
import BytecodeParity.Proofs.Code.Unmasked
import BytecodeParity.Proofs.Contract.Registry
import BytecodeParity.Proofs.Text.Cuts
/-!
# Runs that may stop

The definitions of a comparison answer every input. The operations they stand for do not: a text is
cut in two at a byte, a size is taken from another, and a value is looked for that has to hold
something. This file goes through the run once more with each of these operations as a partial one,
from the addresses of a fork to the report. Where a slice is asked for and not demanded, no slice is
one of the answers, and the run goes on with it.

No operation is ever made where it has no result. Marks are cut off behind two characters of one
byte (`splitMark_eq`), sizes are compared before they are subtracted (`stripMetadata_eq`), and a
slice of bytes shows what the chunk at its place shows (`byteAt_eq_shown`). What is left is the
values: **a comparison stops exactly if there is an empty one among those of its contract**
(`compareContract_eq_ite`), and a registry never has one, whatever the addresses and the hash it is
made of (`run_eq_ok`).
-/

namespace BytecodeParity

namespace Guarded

open Text

/-- What stops a run. -/
inductive Stop where
  /-- A text is cut inside a character or behind its end. -/
  | cut
  /-- A size is less than what is taken from it. -/
  | size
  /-- A value to be masked is empty. -/
  | emptyValue
  deriving DecidableEq, Repr

/-! ## Operations -/

/-- Cuts a text in two. -/
def splitAt (n : Nat) (t : Text) : Except Stop (Text × Text) :=
  match cutAt? n t with
  | some parts => .ok parts
  | none => .error .cut

/-- Takes one size from another. -/
def minus (m n : Nat) : Except Stop Nat := if n ≤ m then .ok (m - n) else .error .size

/-- The bytes from one position up to another, if there is such a slice. -/
def slice? (start stop : Nat) (bytes : List UInt8) : Option (List UInt8) :=
  if start ≤ stop ∧ stop ≤ bytes.length then some ((bytes.drop start).take (stop - start)) else none

variable {m n : Nat} {t : Text}

theorem splitAt_eq_ok_iff {parts : Text × Text} :
    splitAt n t = .ok parts ↔ parts.1 ++ parts.2 = t ∧ byteSize parts.1 = n := by
  rw [← cutAt?_eq_some_iff, splitAt]
  cases cutAt? n t with
  | none => simp
  | some _ => simp

/-- A letter of two bytes is not cut in two. -/
example : splitAt 1 ['é', '1'] = .error .cut ∧ splitAt 2 ['é', '1'] = .ok (['é'], ['1']) := by
  decide

theorem minus_of_le (h : n ≤ m) : minus m n = .ok (m - n) := if_pos h

/-! ## Marks and values -/

/-- The mark of a text and what follows it. -/
def splitMark (t : Text) : Except Stop (Text × Text) :=
  if ['0', 'x'].isPrefixOf t || ['0', 'X'].isPrefixOf t then splitAt 2 t else .ok ([], t)

/-- A text without its mark. -/
def body (t : Text) : Except Stop Text := do
  let parts ← splitMark t
  return parts.2

/-- The form in which values are stored. -/
def raw (t : Text) : Except Stop Text := do
  let rest ← body (trim t)
  return lower rest

/-- **A mark can be cut off.** Both its characters have one byte. -/
theorem splitMark_eq (t : Text) : splitMark t = .ok (Hex.splitMark t) := by
  rw [splitMark]
  by_cases hmark : ['0', 'x'].isPrefixOf t || ['0', 'X'].isPrefixOf t
  · rw [if_pos hmark, splitAt_eq_ok_iff]
    refine ⟨Hex.mark_append_body t, ?_⟩
    rw [Bool.or_eq_true, List.isPrefixOf_iff_prefix, List.isPrefixOf_iff_prefix] at hmark
    rcases hmark with ⟨s, rfl⟩ | ⟨s, rfl⟩
    · rfl
    · rfl
  · rw [if_neg hmark]
    -- Neither of the two marks stands in front.
    unfold Hex.splitMark
    split
    · exact absurd rfl hmark
    · exact absurd rfl hmark
    · rfl

theorem body_eq (t : Text) : body t = .ok (Hex.body t) := by
  rw [body, splitMark_eq]
  rfl

theorem raw_eq (t : Text) : raw t = .ok (Hex.raw t) := by
  rw [raw, body_eq]
  rfl

/-! ## Registries -/

/-- Sets the values of a contract. -/
def insert (name : String) (values : List Text) (entries : OrderedMap String (List Text)) :
    Except Stop (OrderedMap String (List Text)) := do
  let raws ← values.mapM raw
  return OrderedMap.insert name (raws.filter fun v => !v.isEmpty) entries

/-- The value of a role. -/
def value? (contracts : OrderedMap String String) (poolHash : Text) (role : Role) :
    Except Stop (Option Text) := do
  if role = .poolInitCodeHash then
    let value ← raw poolHash
    return some value
  else
    match role.addressKey?.bind fun key => OrderedMap.find? key contracts with
    | none => return role.default?
    | some address =>
      let value ← raw address.toList
      return if value.isEmpty then role.default? else some value

/-- The values of a fork, by contract. -/
def ofDeployment (contracts : OrderedMap String String) (poolHash : Text) :
    Except Stop (OrderedMap String (List Text)) :=
  (Contract.all.filter fun c => !c.roles.isEmpty).foldlM
    (fun entries c => do
      let values ← c.roles.mapM (value? contracts poolHash)
      insert c.name (values.filterMap id) entries) []

/-- The values of the canonical deployment, by contract. -/
def canonical : Except Stop (OrderedMap String (List Text)) :=
  Contract.all.foldlM (fun entries c => insert c.name c.canonicalValues entries) []

theorem insert_eq (name : String) (values : List Text) (entries : OrderedMap String (List Text)) :
    insert name values entries =
      .ok (OrderedMap.insert name (Registry.storedForm values) entries) := by
  have hraw : raw = fun v => pure (Hex.raw v) := funext raw_eq
  rw [insert, hraw, List.mapM_pure]
  rfl

theorem value?_eq (contracts : OrderedMap String String) (poolHash : Text) (role : Role) :
    value? contracts poolHash role = .ok (role.value? contracts poolHash) := by
  by_cases hrole : role = .poolInitCodeHash
  · rw [value?, Role.value?, if_pos hrole, if_pos hrole, raw_eq]
    rfl
  · rw [value?, if_neg hrole]
    cases hkey : role.addressKey? with
    | none =>
      rw [Role.value?, if_neg hrole, hkey]
      rfl
    | some key =>
      rw [Role.value?_of_key hkey, Option.bind_some]
      cases OrderedMap.find? key contracts with
      | none => rfl
      | some address =>
        dsimp only
        rw [raw_eq, Option.bind_some, Role.given?]
        show Except.ok _ = _
        split
        · rfl
        · rfl

/-- The entries of a registry that is built contract by contract. -/
theorem entries_foldl (f : Contract → List Text) (cs : List Contract) (r : Registry) :
    (cs.foldl (fun r c => r.insert c.name (f c)) r).entries =
      cs.foldl (fun entries c => OrderedMap.insert c.name (Registry.storedForm (f c)) entries)
        r.entries := by
  induction cs generalizing r with
  | nil => rfl
  | cons c cs ih =>
    rw [List.foldl_cons, List.foldl_cons, ih]
    rfl

theorem ofDeployment_eq (contracts : OrderedMap String String) (poolHash : Text) :
    ofDeployment contracts poolHash = .ok (Registry.ofDeployment contracts poolHash).entries := by
  have hvalue : value? contracts poolHash = fun role => pure (role.value? contracts poolHash) :=
    funext (value?_eq contracts poolHash)
  rw [ofDeployment, Registry.ofDeployment, entries_foldl, hvalue]
  simp only [List.mapM_pure, pure_bind, insert_eq, List.filterMap_map]
  exact List.foldlM_pure

theorem canonical_eq : canonical = .ok Registry.canonical.entries := by
  rw [canonical, Registry.canonical, entries_foldl]
  simp only [insert_eq]
  exact List.foldlM_pure

/-! ## Trailers -/

/-- What is left of a code without the last bytes of its body. -/
def dropTrailer (code mark body : Text) (trailer : Nat) : Except Stop Text := do
  if trailer < byteSize body then
    let stop ← minus (byteSize body) trailer
    match cutAt? stop body with
    | none => return code
    | some parts => return mark ++ parts.1
  else return code

/-- A code without its trailer. -/
def stripMetadata (code : Text) : Except Stop Text := do
  let (mark, body) ← splitMark code
  if byteSize body < Code.lengthFieldSize then return code
  else
    let start ← minus (byteSize body) Code.lengthFieldSize
    match (cutAt? start body).bind fun parts => Numeral.read? 16 UInt16.size parts.2 with
    | none => return code
    | some length =>
      if 0 < length ∧ length < Code.metadataLimit then
        dropTrailer code mark body (2 * length + Code.lengthFieldSize)
      else return code

/-- Something is left exactly if there is room for more than the trailer. -/
theorem dropTrailer_eq (code mark body : Text) (n : Nat) :
    dropTrailer code mark body n =
      .ok (match dropLastBytes? n body with
        | some (c :: kept) => mark ++ c :: kept
        | _ => code) := by
  rw [dropTrailer]
  rcases Nat.lt_or_ge n (byteSize body) with hroom | hover
  · rw [if_pos hroom, minus_of_le (Nat.le_of_lt hroom), dropLastBytes?_eq (Nat.le_of_lt hroom)]
    simp only [bind, Except.bind]
    cases hcut : cutAt? (byteSize body - n) body with
    | none => rfl
    | some parts =>
      obtain ⟨front, back⟩ := parts
      obtain ⟨-, hsize⟩ := of_cutAt? hcut
      cases front with
      | nil =>
        rw [byteSize_nil] at hsize
        omega
      | cons c kept => rfl
  · rw [if_neg (Nat.not_lt.mpr hover)]
    rcases dropLastBytes?_of_le hover with hnone | hnil
    · rw [hnone]
      rfl
    · rw [hnil]
      rfl

/-- The length field is read first, and then its bounds are looked at. -/
theorem trailerSize?_eq (body : Text) :
    Code.trailerSize? body =
      (if body.length < Code.lengthFieldSize then none
        else Numeral.read? 16 UInt16.size (body.drop (body.length - Code.lengthFieldSize))).bind
          fun length =>
            if 0 < length ∧ length < Code.metadataLimit then
              some (2 * length + Code.lengthFieldSize)
            else none := by
  rw [Code.trailerSize?]
  split
  · rfl
  · rfl

/-- **No trailer is cut off where that is not possible.** -/
theorem stripMetadata_eq (code : Text) : stripMetadata code = .ok (Code.stripMetadata code) := by
  rw [stripMetadata, splitMark_eq, Code.stripMetadata]
  generalize Hex.splitMark code = parts
  obtain ⟨mark, body⟩ := parts
  dsimp only
  simp only [bind, Except.bind]
  rw [trailerSize?_eq]
  by_cases hsmall : byteSize body < Code.lengthFieldSize
  · have hlen : body.length < Code.lengthFieldSize :=
      Nat.lt_of_le_of_lt (length_le_byteSize body) hsmall
    rw [if_pos hsmall, if_pos hlen]
    rfl
  · rw [if_neg hsmall, minus_of_le (Nat.not_lt.mp hsmall)]
    dsimp only
    rw [Numeral.read?_lastBytes (Nat.not_lt.mp hsmall)]
    cases (if body.length < Code.lengthFieldSize then none
        else Numeral.read? 16 UInt16.size (body.drop (body.length - Code.lengthFieldSize))) with
    | none => rfl
    | some length =>
      dsimp only
      rw [Option.bind_some]
      by_cases hbounds : 0 < length ∧ length < Code.metadataLimit
      · rw [if_pos hbounds, if_pos hbounds, Option.bind_some]
        exact dropTrailer_eq code mark body _
      · rw [if_neg hbounds, if_neg hbounds]
        rfl

/-! ## Masking and comparing -/

/-- Masks one value after the other. -/
def mask (values : List Text) (code : Text) : Except Stop Text :=
  values.foldlM
    (fun code value =>
      if (lower value).isEmpty then .error .emptyValue else .ok (Code.maskValue code value))
    (lower code)

/-- What a byte of a code shows, or what stands for it behind the end. -/
def byteAt (bytes : List UInt8) (index : Nat) : Text :=
  match slice? index (min bytes.length (index + 2)) bytes with
  | some (b :: rest) => showChunk (b :: rest)
  | _ => Code.missingByte

/-- Compares two codes, at every second byte of the longer one. -/
def compare (deployed reference : Text) : Except Stop Comparison := do
  let deployed ← body deployed
  let reference ← body reference
  let d := utf8 deployed
  let r := utf8 reference
  let found := (List.range' 0 ((max d.length r.length + 1) / 2) 2).filterMap fun i =>
    Code.difference? (i / 2) (byteAt d i) (byteAt r i)
  return {
    identical := found.isEmpty
    sizeDelta := Int.tdiv ((d.length : Int) - r.length) 2
    differences := found }

/-- Compares the two codes of a contract, with the values listed under its name. -/
def compareContract (name : String) (deployed reference : Text)
    (deployedValues referenceValues : OrderedMap String (List Text)) : Except Stop Comparison := do
  let zeroed := Code.zeroAbsentFeatures name reference
  let deployed ← body (← stripMetadata deployed)
  let reference ← body (← stripMetadata zeroed)
  let maskedDeployed ←
    mask ((OrderedMap.find? name deployedValues).getD []) ('0' :: 'x' :: deployed)
  let maskedReference ←
    mask ((OrderedMap.find? name referenceValues).getD []) ('0' :: 'x' :: reference)
  compare maskedDeployed maskedReference

/-- A whole run: both registries are made, and the codes are compared. -/
def run (contracts : OrderedMap String String) (poolHash : Text) (name : String)
    (deployed reference : Text) : Except Stop Comparison := do
  let deployedValues ← ofDeployment contracts poolHash
  let referenceValues ← canonical
  compareContract name deployed reference deployedValues referenceValues

/-- **Masking stops at an empty value, and at nothing else.** -/
theorem mask_eq_ite (values : List Text) (code : Text) :
    mask values code =
      if [] ∈ values then .error .emptyValue else .ok (Code.mask values code) := by
  rw [mask, Code.mask]
  generalize lower code = t
  induction values generalizing t with
  | nil => rfl
  | cons v values ih =>
    rw [List.foldlM_cons, List.foldl_cons]
    cases v with
    | nil =>
      rw [if_pos List.mem_cons_self]
      rfl
    | cons c v =>
      show values.foldlM _ (Code.maskValue t (c :: v)) = _
      rw [ih]
      simp

/-- The slice of two bytes at a position, of one byte at the end, and of none behind it. -/
theorem getD_slice? (bytes : List UInt8) (i : Nat) :
    (slice? i (min bytes.length (i + 2)) bytes).getD [] = (bytes.drop i).take 2 := by
  rw [slice?]
  rcases Nat.lt_or_ge i bytes.length with hlt | hge
  · have hrest : (bytes.drop i).length = bytes.length - i := List.length_drop
    rw [if_pos ⟨by omega, Nat.min_le_left _ _⟩, Option.getD_some]
    rcases Nat.le_total bytes.length (i + 2) with hend | hin
    · rw [Nat.min_eq_left hend, ← hrest, List.take_length, List.take_of_length_le (by omega)]
    · rw [Nat.min_eq_right hin, Nat.add_sub_cancel_left]
  · rw [List.drop_eq_nil_of_le hge, List.take_nil, List.take_nil]
    split
    · rfl
    · rfl

/-- **A slice of bytes shows what the chunk at its place shows.** -/
theorem byteAt_eq_shown (bytes : List UInt8) (p : Nat) :
    byteAt bytes (2 * p) = Code.shown (chunk bytes p) := by
  rw [byteAt, Code.shown, chunk, ← getD_slice?]
  cases slice? (2 * p) (min bytes.length (2 * p + 2)) bytes with
  | none => rfl
  | some slice =>
    cases slice with
    | nil => rfl
    | cons b rest => rfl

theorem compare_eq (deployed reference : Text) :
    compare deployed reference = .ok (Code.compare deployed reference) := by
  have hcount : ∀ a b : Nat, (max a b + 1) / 2 = max ((a + 1) / 2) ((b + 1) / 2) := by
    intro a b
    omega
  have hsteps : ∀ n : Nat, List.range' 0 n 2 = (List.range n).map fun p => 2 * p := by
    intro n
    refine List.ext_getElem (by simp) fun i _ _ => ?_
    simp
  have hfound : ∀ d r : List UInt8,
      ((List.range' 0 ((max d.length r.length + 1) / 2) 2).filterMap fun i =>
        Code.difference? (i / 2) (byteAt d i) (byteAt r i)) =
      Code.differences (Code.align (pairs d) (pairs r)) := by
    intro d r
    rw [Code.differences_align, length_pairs, length_pairs, hcount, hsteps, List.filterMap_map]
    refine List.filterMap_congr fun p _ => ?_
    rw [Code.getD_pairs_eq_shown, Code.getD_pairs_eq_shown, ← byteAt_eq_shown, ← byteAt_eq_shown]
    simp
  rw [compare, body_eq, body_eq, Code.compare]
  simp only [bind, Except.bind, hfound]
  rfl

/-- **A comparison stops exactly if one of the values is empty.** -/
theorem compareContract_eq_ite (name : String) (deployed reference : Text)
    (dm rm : OrderedMap String (List Text)) :
    let deployedValues := (OrderedMap.find? name dm).getD []
    let referenceValues := (OrderedMap.find? name rm).getD []
    compareContract name deployed reference dm rm =
      if [] ∈ deployedValues ++ referenceValues then .error .emptyValue
      else
        .ok (Code.compare
          (Code.mask deployedValues (Code.withoutTrailer deployed))
          (Code.mask referenceValues
            (Code.withoutTrailer (Code.zeroAbsentFeatures name reference)))) := by
  intro deployedValues referenceValues
  rw [compareContract]
  simp only [stripMetadata_eq, body_eq, mask_eq_ite, bind, Except.bind]
  by_cases hd : [] ∈ deployedValues
  · rw [if_pos hd, if_pos (List.mem_append_left _ hd)]
  · rw [if_neg hd]
    by_cases hr : [] ∈ referenceValues
    · rw [if_pos hr, if_pos (List.mem_append_right _ hr)]
    · rw [if_neg hr, if_neg fun h => (List.mem_append.mp h).elim hd hr]
      exact compare_eq _ _

/-- An empty value would stop a comparison, had a registry one. -/
example :
    compareContract "TickLens" ['6', '0'] ['6', '0'] [("TickLens", [[]])] [] =
      .error .emptyValue := by
  decide +kernel

/-- **No run stops**, and what it comes to is the comparison. -/
theorem run_eq_ok (contracts : OrderedMap String String) (poolHash : Text) (name : String)
    (deployed reference : Text) :
    let deployedValues := Registry.ofDeployment contracts poolHash
    run contracts poolHash name deployed reference =
        .ok (Code.compareContract name deployed reference deployedValues Registry.canonical) ∧
      ∀ v ∈ deployedValues.get name ++ Registry.canonical.get name, v ≠ [] ∧ lower v ≠ [] := by
  intro deployedValues
  have hvalues : ∀ v ∈ deployedValues.get name ++ Registry.canonical.get name, v ≠ [] := by
    intro v hv
    rcases List.mem_append.mp hv with hv | hv
    · exact Registry.ne_nil_of_mem_get hv
    · exact Registry.ne_nil_of_mem_get hv
  refine ⟨?_, fun v hv => ⟨hvalues v hv, Hex.lower_ne_nil (hvalues v hv)⟩⟩
  have hnone : [] ∉ (OrderedMap.find? name deployedValues.entries).getD [] ++
      (OrderedMap.find? name Registry.canonical.entries).getD [] :=
    fun hmem => hvalues [] hmem rfl
  rw [run, ofDeployment_eq, canonical_eq]
  show compareContract name deployed reference deployedValues.entries Registry.canonical.entries = _
  rw [compareContract_eq_ite, if_neg hnone, Code.compareContract, Code.normalize, Registry.get,
    Registry.get]

end Guarded

end BytecodeParity
